import CompiledViews.Proofs.Directive.Arguments
import CompiledViews.Proofs.Directive.Scanning
import CompiledViews.Proofs.Failing
import Mathlib.Data.List.Chain

/-!
# Sources as they are meant

Whoever writes a template thinks of it as literal text with directives in it. That is a list of
parts, and the source is what they look like one after the other. This holds of a list in which no
part can be taken for something else because of its neighbours: a directive does not stand behind a
character that keeps it from being one, and what comes behind its name is not taken for more of the
name or for an argument list.

A pass of one rule over such a source does to the list of parts what one expects, and the list of
parts is still one of that kind. What makes this work is that the rule puts in nothing that begins
a directive, or keeps one from beginning.
-/

namespace CompiledViews.Directive

/-! ## Parts -/

inductive Part
  /-- Text that stays as it is. -/
  | literal (text : Text)
  /-- A directive, with its expression in parentheses right behind the name, or without any. -/
  | invocation (name : Text) (expr : Option Text)
  deriving DecidableEq

def Part.written : Part → Text
  | literal text => text
  | invocation name expr => Directive.written name (expr.map (⟨[], ·⟩))

/-- The source that consists of the parts. -/
def source (parts : List Part) : Text := parts.flatMap Part.written

@[simp] theorem source_nil : source [] = [] := rfl

@[simp] theorem source_cons (part : Part) (parts : List Part) :
    source (part :: parts) = part.written ++ source parts := rfl

/-- Whether a text behind a bare name is seen to be neither more of the name nor an argument list:
there is something in it behind its leading gap that is no parenthesis. -/
def Detached (text : Text) : Prop :=
  text.startsInIdentifier = false ∧ ∃ c, (text.dropWhile isGap).head? = some c ∧ c ≠ '('

/-- Whether a part by itself is as it should be, with directives of these names. -/
def Part.WellFormed (names : List Text) : Part → Prop
  | literal text => text ≠ [] ∧ '@' ∉ text
  | invocation name expr => name ∈ names ∧ ∀ e ∈ expr, Balanced e ∧ '@' ∉ e

/-- Whether one part may stand directly before another. -/
def Part.CanPrecede : Part → Part → Prop
  | literal text, invocation _ _ => text.getLast?.any Text.isIdentifierRest = false
  | invocation _ none, literal text => Detached text
  | invocation _ none, invocation _ _ => False
  | _, _ => True

/-- Whether the parts make up a source that reads as it is meant. -/
structure WellWritten (names : List Text) (parts : List Part) : Prop where
  wellFormed : ∀ part ∈ parts, part.WellFormed names
  neighbours : parts.IsChain Part.CanPrecede

/-! ## What passes preserve

Expanded directives become literals, and those may be empty. So what stays true through the passes
is not that neighbours suit each other, but that each part suits all that is around it. -/

/-- Whether a part reads as it is meant, behind the character `previous` and before `rest`. -/
def Part.Stands (previous : Option Char) (rest : List Part) : Part → Prop
  | literal text => '@' ∉ text
  | invocation name expr =>
    name.isIdentifier = true ∧ previous.any blocksDirective = false ∧
      (∀ e ∈ expr, Balanced e ∧ '@' ∉ e) ∧
      (expr = none → rest = [] ∨ ∃ text others, rest = literal text :: others ∧ Detached text)

/-- Whether all parts read as they are meant, the first one behind the character `previous`. -/
def Steady : (previous : Option Char) → List Part → Prop
  | _, [] => True
  | previous, part :: rest =>
    part.Stands previous rest ∧ Steady (lastOr previous part.written) rest

variable {previous previous' : Option Char} {parts rest : List Part} {names : List Text}

/-- Any character that does not keep a directive from beginning may come before. -/
theorem Steady.of_free (h : Steady previous parts)
    (hfree : previous'.any blocksDirective = false) : Steady previous' parts := by
  induction parts generalizing previous previous' with
  | nil => trivial
  | cons part rest ih =>
    obtain ⟨hpart, hrest⟩ := h
    refine ⟨?_, ?_⟩
    · cases part with
      | literal text => exact hpart
      | invocation name expr => exact ⟨hpart.1, hfree, hpart.2.2⟩
    · -- an empty part hands on what comes before it
      by_cases hempty : part.written = []
      · rw [hempty, lastOr_nil] at hrest ⊢
        exact ih hrest hfree
      · rw [lastOr_of_ne_nil hempty] at hrest ⊢
        exact hrest

theorem lastOr_written_free {name expr : Text} :
    (lastOr previous (Part.invocation name (some expr)).written).any blocksDirective = false := by
  have hwritten : (Part.invocation name (some expr)).written
      = ('@' :: name ++ '(' :: expr) ++ [')'] := by
    simp [Part.written, Directive.written, Arguments.written]
  rw [hwritten, lastOr_append]
  rfl

/-- What is well written reads as it is meant. -/
theorem WellWritten.steady (h : WellWritten names parts)
    (hnames : ∀ name ∈ names, name.isIdentifier = true)
    (hfree : ∀ name expr, parts.head? = some (.invocation name expr) →
      previous.any blocksDirective = false) : Steady previous parts := by
  induction parts generalizing previous with
  | nil => trivial
  | cons part rest ih =>
    have hpart := h.wellFormed part List.mem_cons_self
    have hrest : WellWritten names rest :=
      ⟨fun other hother ↦ h.wellFormed other (List.mem_cons_of_mem _ hother), h.neighbours.tail⟩
    have hnext : ∀ next, rest.head? = some next → part.CanPrecede next := by
      intro next hnext
      obtain ⟨others, rfl⟩ := List.head?_eq_some_iff.mp hnext
      exact (List.isChain_cons_cons.mp h.neighbours).1
    cases part with
    | literal text =>
      refine ⟨hpart.2, ih hrest fun name expr hname ↦ ?_⟩
      have hlast : text.getLast?.any Text.isIdentifierRest = false := hnext _ hname
      have hat : text.getLast hpart.1 ≠ '@' := fun heq ↦ hpart.2 (heq ▸ List.getLast_mem hpart.1)
      change (lastOr previous text).any blocksDirective = false
      rw [lastOr_of_ne_nil hpart.1]
      rw [List.getLast?_eq_some_getLast hpart.1, Option.any_some] at hlast ⊢
      rw [blocksDirective, hlast, beq_eq_false_iff_ne.mpr hat, Bool.or_self]
    | invocation name expr =>
      cases expr with
      | some expr =>
        refine ⟨⟨hnames name hpart.1, hfree name _ rfl, hpart.2, nofun⟩, ?_⟩
        exact ih hrest fun _ _ _ ↦ lastOr_written_free
      | none =>
        refine ⟨⟨hnames name hpart.1, hfree name _ rfl, nofun, fun _ ↦ ?_⟩, ?_⟩
        · cases rest with
          | nil => exact .inl rfl
          | cons next others =>
            have hprecedes := hnext next rfl
            cases next with
            | literal text => exact .inr ⟨text, others, rfl, hprecedes⟩
            | invocation _ _ => exact hprecedes.elim
        · exact ih hrest fun name' expr' hname' ↦ (hnext _ hname').elim

/-! ## One pass -/

variable {name : Text} {expr : Option Text}

/-- The argument list of an invocation as it is written, if it has one. -/
def argumentsText (expr : Option Text) : Text :=
  (expr.map fun expr ↦ '(' :: (expr ++ [')'])).getD []

theorem written_invocation (name : Text) (expr : Option Text) :
    (Part.invocation name expr).written = '@' :: (name ++ argumentsText expr) := by
  cases expr <;> rfl

theorem Part.Stands.behind_name (h : (Part.invocation name expr).Stands previous rest) :
    '@' ∉ argumentsText expr ∧ (argumentsText expr ++ source rest).startsInIdentifier = false ∧
      arguments? (argumentsText expr ++ source rest) = expr.map (⟨[], ·⟩) := by
  obtain ⟨-, -, hexpr, hbare⟩ := h
  cases expr with
  | some expr =>
    obtain ⟨hbalanced, hat⟩ := hexpr expr rfl
    have htext : argumentsText (some expr) ++ source rest
        = '(' :: (expr ++ ')' :: source rest) := by
      simp [argumentsText]
    refine ⟨by simpa [argumentsText] using hat, ?_, ?_⟩
    · rw [htext]
      rfl
    · rw [htext, arguments?_balanced hbalanced, Option.map_some]
  | none =>
    refine ⟨List.not_mem_nil, ?_⟩
    obtain rfl | ⟨text, others, rfl, hstart, c, hc, hne⟩ := hbare rfl
    · exact ⟨rfl, rfl⟩
    · -- the gap ends within the literal, so what comes behind that does not count
      have hdrop : (text.dropWhile isGap).isEmpty = false := by
        cases hdropped : text.dropWhile isGap with
        | nil => rw [hdropped] at hc; cases hc
        | cons _ _ => rfl
      have hhead : (text ++ source others).head? = text.head? := by
        cases text with
        | nil => cases hc
        | cons _ _ => rfl
      refine ⟨?_, arguments?_eq_none ?_⟩
      · change (text ++ source others).startsInIdentifier = false
        rw [Text.startsInIdentifier, hhead]
        exact hstart
      · change ((text ++ source others).dropWhile isGap).head? ≠ some '('
        rw [List.dropWhile_append, hdrop, if_neg Bool.false_ne_true, List.head?_append, hc]
        exact fun heq ↦ hne (Option.some.inj heq)

theorem piecesFrom_invocation (h : (Part.invocation name expr).Stands previous rest) :
    piecesFrom name previous 0 (source (.invocation name expr :: rest)) =
      .call (expr.map (⟨[], ·⟩)) ::
        piecesFrom name (lastOr previous (Part.invocation name expr).written) 0 (source rest) := by
  obtain ⟨-, hstarts, hread⟩ := h.behind_name
  have hsource : source (.invocation name expr :: rest)
      = '@' :: (name ++ (argumentsText expr ++ source rest)) := by
    rw [source_cons, written_invocation, List.cons_append, List.append_assoc]
  have hafter : afterName? name previous ('@' :: (name ++ (argumentsText expr ++ source rest)))
      = some (argumentsText expr ++ source rest) :=
    afterName?_eq_some_iff.mpr ⟨h.2.1, rfl, hstarts⟩
  have hlength : (written name (expr.map (⟨[], ·⟩))).length - 1
      = (name ++ argumentsText expr).length := by
    change (Part.invocation name expr).written.length - 1 = _
    rw [written_invocation, List.length_cons, Nat.add_sub_cancel]
  rw [hsource, piecesFrom, hafter]
  dsimp only
  rw [hread, hlength, ← List.append_assoc, piecesFrom_skip, written_invocation, lastOr_cons]

/-- The pass of another directive takes the invocation for plain text. -/
theorem piecesFrom_other {other : Text} (h : (Part.invocation name expr).Stands previous rest)
    (hother : other.isIdentifier = true) (hne : name ≠ other) :
    piecesFrom other previous 0 (source (.invocation name expr :: rest)) =
      (Part.invocation name expr).written.map .plain ++
        piecesFrom other (lastOr previous (Part.invocation name expr).written) 0 (source rest) := by
  obtain ⟨hat, hstarts, -⟩ := h.behind_name
  have hplain : '@' ∉ name ++ argumentsText expr := by
    rw [List.mem_append, not_or]
    exact ⟨Text.not_mem_of_isIdentifier h.1 (by decide), hat⟩
  -- both names would be all of the identifier behind the `@`
  have hafter : afterName? other previous ('@' :: (name ++ argumentsText expr ++ source rest))
      = none := by
    rw [Option.eq_none_iff_forall_not_mem]
    intro tail htail
    obtain ⟨-, heq, htailstarts⟩ := afterName?_eq_some_iff.mp htail
    rw [List.cons_append, List.cons.injEq, List.append_assoc] at heq
    exact hne (Text.name_unique h.1 hother hstarts htailstarts heq.2)
  rw [source_cons, written_invocation, List.cons_append, piecesFrom, hafter]
  dsimp only
  rw [piecesFrom_plain _ hplain, List.map_cons, List.cons_append, lastOr_cons]

/-- What a rule's pass makes of a part. -/
def Part.settle (available : Capabilities) (rule : Rule) : Part → Except DirectiveError Part
  | literal text => .ok (.literal text)
  | invocation name expr =>
    if name = rule.name then (rule.apply available expr).map .literal
    else .ok (.invocation name expr)

variable {available : Capabilities} {rule : Rule}

/-- A directive is expanded by the pass of its own rule, and left alone by all others. -/
theorem Part.settle_invocation {part : Part}
    (h : (Part.invocation name expr).settle available rule = .ok part) :
    (name = rule.name ∧ ∃ text, rule.apply available expr = .ok text ∧ part = .literal text) ∨
      name ≠ rule.name ∧ part = .invocation name expr := by
  rw [settle] at h
  split at h
  · next hname =>
    obtain ⟨text, happly, rfl⟩ := map_eq_ok_iff.mp h
    exact .inl ⟨hname, text, happly, rfl⟩
  · next hname =>
    cases h
    exact .inr ⟨hname, rfl⟩

/-- A pass only fails at one of its own directives. -/
theorem Part.settle_eq_error {part : Part} {error : DirectiveError}
    (h : part.settle available rule = .error error) :
    ∃ expr, part = .invocation rule.name expr ∧ rule.apply available expr = .error error := by
  cases part with
  | literal text => cases h
  | invocation name expr =>
    rw [settle] at h
    split at h
    · next hname =>
      subst hname
      exact ⟨expr, rfl, map_eq_error_iff.mp h⟩
    · cases h

namespace Registry

theorem expandPieces_source (h : Steady previous parts) :
    expandPieces available rule (piecesFrom rule.name previous 0 (source parts)) =
      (parts.mapM (Part.settle available rule)).map source := by
  induction parts generalizing previous with
  | nil => rfl
  | cons part rest ih =>
    obtain ⟨hpart, hrest⟩ := h
    have hplain : ∀ text : Text, (expandPieces available rule (text.map .plain ++
        piecesFrom rule.name (lastOr previous part.written) 0 (source rest))) =
          ((rest.mapM (Part.settle available rule)).map source).map (text ++ ·) := by
      intro text
      rw [expandPieces_append, expandPieces_plain, ih hrest]
      rfl
    rw [List.mapM_cons]
    cases part with
    | literal text =>
      rw [source_cons, Part.written, piecesFrom_plain _ hpart]
      refine (hplain text).trans ?_
      cases rest.mapM (Part.settle available rule) <;> rfl
    | invocation name expr =>
      by_cases hname : name = rule.name
      · subst hname
        have hexpr : (expr.map (⟨[], ·⟩ : Text → Arguments)).map (·.expr) = expr := by
          cases expr <;> rfl
        rw [piecesFrom_invocation hpart, expandPieces, expandPiece, hexpr, ih hrest, Part.settle,
          if_pos rfl]
        cases rule.apply available expr with
        | error error => rfl
        | ok text => cases rest.mapM (Part.settle available rule) <;> rfl
      · rw [piecesFrom_other hpart rule.name_isIdentifier hname, Part.settle, if_neg hname]
        refine (hplain _).trans ?_
        cases rest.mapM (Part.settle available rule) <;> rfl

end Registry

end CompiledViews.Directive
