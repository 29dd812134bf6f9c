import CompiledViews.Directive.Registry

/-!
# What a scan looks at

A directive begins with an `@`, and its name is all of the identifier that follows. So a scan does
nothing where there is no `@`, and of several names, some of which may begin with others, at most
one stands behind an `@`.

A pass over a text is taken here to start anywhere in the text, because what comes before matters
only by its last character. Then passes can be followed from one part of a text to the next.
-/

namespace CompiledViews

namespace Text

variable {name other rest rest' t : Text}

theorem isIdentifierRest_of_mem (h : name.isIdentifier = true) {c : Char} (hc : c ∈ name) :
    isIdentifierRest c = true := by
  cases name with
  | nil => cases hc
  | cons first others =>
    rw [isIdentifier, Bool.and_eq_true, List.all_eq_true] at h
    rcases List.mem_cons.mp hc with rfl | hc
    · have hstart := h.1
      rw [isIdentifierStart, Bool.or_eq_true] at hstart
      rw [isIdentifierRest, Bool.or_eq_true]
      exact hstart.imp_left fun halpha ↦ by simp [Char.isAlphanum, halpha]
    · exact h.2 c hc

theorem ne_nil_of_isIdentifier (h : name.isIdentifier = true) : name ≠ [] := by
  rintro rfl
  cases h

theorem not_mem_of_isIdentifier (h : name.isIdentifier = true) {c : Char}
    (hc : isIdentifierRest c = false) : c ∉ name := fun hmem ↦ by
  rw [isIdentifierRest_of_mem h hmem] at hc
  cases hc

theorem takeWhile_append_of_all (h : ∀ c ∈ name, isIdentifierRest c = true)
    (hrest : rest.startsInIdentifier = false) :
    (name ++ rest).takeWhile isIdentifierRest = name := by
  have hnil : rest.takeWhile isIdentifierRest = [] := by
    cases rest with
    | nil => rfl
    | cons c cs =>
      have hc : isIdentifierRest c = false := hrest
      simp [hc]
  rw [List.takeWhile_append_of_pos h, hnil, List.append_nil]

theorem takeWhile_append_of_isIdentifier (h : name.isIdentifier = true)
    (hrest : rest.startsInIdentifier = false) :
    (name ++ rest).takeWhile isIdentifierRest = name :=
  takeWhile_append_of_all (fun _ hc ↦ isIdentifierRest_of_mem h hc) hrest

theorem name_unique (h : name.isIdentifier = true) (h' : other.isIdentifier = true)
    (hrest : rest.startsInIdentifier = false) (hrest' : rest'.startsInIdentifier = false)
    (heq : name ++ rest = other ++ rest') : name = other := by
  rw [← takeWhile_append_of_isIdentifier h hrest, heq, takeWhile_append_of_isIdentifier h' hrest']

end Text

namespace Directive

variable {name other rest t : Text} {previous : Option Char}

/-! ## Names -/

/-- Whether the name stands at the start of a text and does not go on. -/
def standsAtStart (name t : Text) : Bool :=
  (Text.dropBeginning? name t).any fun rest ↦ !rest.startsInIdentifier

theorem standsAtStart_iff : standsAtStart name t = true ↔
    ∃ rest, t = name ++ rest ∧ rest.startsInIdentifier = false := by
  simp [standsAtStart, Option.any_eq_true, Text.dropBeginning?_eq_some_iff]

theorem eq_of_standsAtStart (hname : name.isIdentifier = true) (hother : other.isIdentifier = true)
    (h : standsAtStart name t = true) (h' : standsAtStart other t = true) : name = other := by
  obtain ⟨rest, rfl, hrest⟩ := standsAtStart_iff.mp h
  obtain ⟨rest', heq, hrest'⟩ := standsAtStart_iff.mp h'
  exact Text.name_unique hname hother hrest hrest' heq

theorem standsAtStart_cons {c : Char} (hname : name.isIdentifier = true)
    (hc : Text.isIdentifierRest c = false) : standsAtStart name (c :: t) = false := by
  rw [Bool.eq_false_iff]
  intro h
  obtain ⟨rest, heq, -⟩ := standsAtStart_iff.mp h
  obtain ⟨first, others, rfl⟩ := List.exists_cons_of_ne_nil (Text.ne_nil_of_isIdentifier hname)
  rw [List.cons_append, List.cons.injEq] at heq
  exact Text.not_mem_of_isIdentifier hname hc (by simp [heq.1])

theorem afterName?_eq_some_iff : afterName? name previous t = some rest ↔
    previous.any blocksDirective = false ∧ t = '@' :: name ++ rest ∧
      rest.startsInIdentifier = false := by
  rw [afterName?]
  split
  · next h => simp [h]
  · next h => simp [Option.filter_eq_some_iff, Text.dropBeginning?_eq_some_iff, h]

theorem afterName?_cons_of_ne {c : Char} (h : c ≠ '@') :
    afterName? name previous (c :: t) = none := by
  rw [Option.eq_none_iff_forall_not_mem]
  intro rest hrest
  have hcons := (afterName?_eq_some_iff.mp hrest).2.1
  rw [List.cons_append, List.cons.injEq] at hcons
  exact h hcons.1

/-! ## Pieces -/

/-- The character before what follows a text. -/
def lastOr (previous : Option Char) (t : Text) : Option Char := t.getLast?.or previous

@[simp] theorem lastOr_nil (previous : Option Char) : lastOr previous [] = previous := rfl

@[simp] theorem lastOr_cons (previous : Option Char) (c : Char) (t : Text) :
    lastOr previous (c :: t) = lastOr (some c) t := by
  simp [lastOr, List.getLast?_cons]

theorem lastOr_append (previous : Option Char) (s t : Text) :
    lastOr previous (s ++ t) = lastOr (lastOr previous s) t := by
  induction s generalizing previous with
  | nil => rfl
  | cons c s ih => rw [List.cons_append, lastOr_cons, ih, lastOr_cons]

theorem lastOr_of_ne_nil (h : t ≠ []) : lastOr previous t = t.getLast? := by
  obtain ⟨c, cs, rfl⟩ := List.exists_cons_of_ne_nil h
  simp [lastOr, List.getLast?_cons]

theorem piecesFrom_skip (previous : Option Char) (t rest : Text) :
    piecesFrom name previous t.length (t ++ rest) = piecesFrom name (lastOr previous t) 0 rest := by
  induction t generalizing previous with
  | nil => rfl
  | cons c t ih =>
    rw [List.length_cons, List.cons_append, piecesFrom, ih, lastOr_cons]

theorem piecesFrom_plain (previous : Option Char) (h : '@' ∉ t) (rest : Text) :
    piecesFrom name previous 0 (t ++ rest)
      = t.map .plain ++ piecesFrom name (lastOr previous t) 0 rest := by
  induction t generalizing previous with
  | nil => rfl
  | cons c t ih =>
    rw [List.mem_cons, not_or] at h
    rw [List.cons_append, piecesFrom, afterName?_cons_of_ne (Ne.symm h.1), ih (some c) h.2]
    simp

/-! ## Passes -/

namespace Registry

variable {available : Capabilities} {rule : Rule}

theorem expandPieces_append (before after : List Piece) :
    expandPieces available rule (before ++ after) =
      (expandPieces available rule before).bind fun start ↦
        (expandPieces available rule after).map (start ++ ·) := by
  induction before with
  | nil =>
    rw [List.nil_append, expandPieces]
    cases expandPieces available rule after <;> rfl
  | cons piece before ih =>
    rw [List.cons_append, expandPieces, expandPieces, ih]
    cases expandPiece available rule piece with
    | error error => rfl
    | ok start =>
      cases expandPieces available rule before with
      | error error => rfl
      | ok middle =>
        cases expandPieces available rule after with
        | error error => rfl
        | ok text =>
          change Except.ok (start ++ (middle ++ text)) = Except.ok (start ++ middle ++ text)
          rw [List.append_assoc]

theorem expandPieces_plain (t : Text) : expandPieces available rule (t.map .plain) = .ok t := by
  induction t with
  | nil => rfl
  | cons c t ih =>
    rw [List.map_cons, expandPieces, ih]
    rfl

end Registry

end Directive

end CompiledViews
