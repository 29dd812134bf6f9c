import CompiledViews.Proofs.Directive.Escape
import CompiledViews.Proofs.Directive.Nesting

/-!
# All occurrences are found

Scanning a source for a directive reports where it occurs, from left to right and without overlaps.
Each report is right: a directive may begin there, and it reaches as far as the argument list behind
its name, or to the end of the name. And none is missing: wherever a directive may begin, one is
reported, unless the place is taken up by the argument list of another.

## The invariant

The scanner has no memory but the character before. What makes it complete is a statement about all
that is left of it: every place in there where a directive may begin is reported or taken up. A
plain character adds at most one place, and that one has been looked at; an occurrence adds those
that it takes up.

Replacing the reported ranges is then what a pass over the source does, and with a single rule that
is all of expanding, but for the escapes: a doubled `@` before the name loses one.
-/

namespace CompiledViews.Directive

open Disk (decode encode)

variable {name before rest source t : Text} {previous : Option Char} {pieces : List Piece}

/-! ## Where a directive may begin -/

/-- Whether `@name` stands between two parts of a source and may be a directive there. -/
structure MayBegin (name source before rest : Text) : Prop where
  eq : source = before ++ ('@' :: name ++ rest)
  free : before.getLast?.any blocksDirective = false
  ends : rest.startsInIdentifier = false

/-- The occurrence that begins behind `before` and whose name is followed by `rest`. -/
def occurrenceBetween (name before rest : Text) : Occurrence :=
  let start := before.utf8Length
  let stop := start + Text.utf8Length ('@' :: name)
  match argumentList? rest with
  | some (expr, size) => ⟨start, stop + size, some expr⟩
  | none => ⟨start, stop, none⟩

theorem occurrenceBetween_eq (name before rest : Text) :
    occurrenceBetween name before rest =
      ⟨before.utf8Length, before.utf8Length + (written name (arguments? rest)).utf8Length,
        (arguments? rest).map (·.expr)⟩ := by
  rw [occurrenceBetween, argumentList?]
  cases arguments? rest with
  | none => simp [written]
  | some arguments => simp [written, Text.utf8Length_append, Text.utf8Length_cons, Nat.add_assoc]

theorem lastOr_none (t : Text) : lastOr none t = t.getLast? := Option.or_none

theorem afterName?_eq_some_iff_mayBegin :
    afterName? name (lastOr none before) t = some rest ↔
      MayBegin name (before ++ t) before rest := by
  rw [afterName?_eq_some_iff, lastOr_none]
  constructor
  · rintro ⟨hfree, rfl, hends⟩
    exact ⟨rfl, hfree, hends⟩
  · rintro ⟨heq, hfree, hends⟩
    exact ⟨hfree, List.append_cancel_left heq, hends⟩

theorem written_ne_nil (name : Text) (arguments : Option Arguments) :
    written name arguments ≠ [] := by
  simp [written]

/-! ## Scanning, step by step -/

/-- How a text that comes behind the character `previous` is cut into pieces. -/
inductive Scan (name : Text) : (previous : Option Char) → Text → List Piece → Prop
  | nil (previous : Option Char) : Scan name previous [] []
  | plain {previous : Option Char} {c : Char} {cs : Text} {pieces : List Piece}
    (hnone : afterName? name previous (c :: cs) = none) (hscan : Scan name (some c) cs pieces) :
    Scan name previous (c :: cs) (.plain c :: pieces)
  | call {previous : Option Char} {rest tail : Text} {pieces : List Piece}
    (hafter : afterName? name previous (written name (arguments? rest) ++ tail) = some rest)
    (hscan : Scan name (lastOr previous (written name (arguments? rest))) tail pieces) :
    Scan name previous (written name (arguments? rest) ++ tail)
      (.call (arguments? rest) :: pieces)

theorem exists_tail (name rest : Text) :
    ∃ tail, '@' :: name ++ rest = written name (arguments? rest) ++ tail := by
  cases harguments : arguments? rest with
  | none => exact ⟨rest, by simp [written]⟩
  | some arguments =>
    obtain ⟨tail, hlist⟩ := arguments?_eq_some_iff.mp harguments
    refine ⟨tail, ?_⟩
    rw [hlist.eq]
    simp [written, Arguments.written]

theorem scan_piecesFrom (name : Text) (previous : Option Char) (t : Text) :
    Scan name previous t (piecesFrom name previous 0 t) := by
  -- an occurrence leaves a shorter text, but not the next shorter one
  induction hlength : t.length using Nat.strongRecOn generalizing previous t with
  | ind length ih =>
    cases t with
    | nil => exact .nil previous
    | cons c cs =>
      rw [List.length_cons] at hlength
      rw [piecesFrom]
      cases hafter : afterName? name previous (c :: cs) with
      | none => exact .plain hafter (ih cs.length (by omega) (some c) cs rfl)
      | some rest =>
        obtain ⟨-, heq, -⟩ := afterName?_eq_some_iff.mp hafter
        obtain ⟨tail, htail⟩ := exists_tail name rest
        obtain ⟨first, others, hwritten⟩ := List.exists_cons_of_ne_nil
          (written_ne_nil name (arguments? rest))
        rw [← heq, hwritten, List.cons_append, List.cons.injEq] at htail
        obtain ⟨rfl, rfl⟩ := htail
        rw [List.length_append] at hlength
        have hskip : piecesFrom name (some c) ((written name (arguments? rest)).length - 1)
            (others ++ tail)
              = piecesFrom name (lastOr previous (written name (arguments? rest))) 0 tail := by
          rw [hwritten, List.length_cons, Nat.add_sub_cancel, piecesFrom_skip, lastOr_cons]
        have hcall : Scan name previous (written name (arguments? rest) ++ tail) _ :=
          .call (by rwa [hwritten]) (ih tail.length (by omega) _ tail rfl)
        dsimp only
        rw [hskip]
        rwa [hwritten] at hcall ⊢

/-! ## What is reported -/

/-- Reports come from left to right, and each ends before the next one begins. -/
theorem occurrencesFrom_increasing (name : Text) (pieces : List Piece) (offset : Nat) :
    (∀ o ∈ occurrencesFrom name offset pieces, offset ≤ o.start ∧ o.start < o.stop) ∧
      (occurrencesFrom name offset pieces).Pairwise fun o o' ↦
        o.start < o'.start ∧ o.stop ≤ o'.start := by
  induction pieces generalizing offset with
  | nil => exact ⟨nofun, .nil⟩
  | cons piece pieces ih =>
    cases piece with
    | plain c =>
      obtain ⟨hstart, hpairwise⟩ := ih (offset + c.utf8Size)
      refine ⟨fun o ho ↦ ?_, hpairwise⟩
      have ho' := hstart o ho
      omega
    | call arguments =>
      have hpos := Text.utf8Length_pos (written_ne_nil name arguments)
      obtain ⟨hstart, hpairwise⟩ := ih (offset + (written name arguments).utf8Length)
      refine ⟨fun o ho ↦ ?_, List.pairwise_cons.mpr ⟨fun o ho ↦ ?_, hpairwise⟩⟩
      · rcases List.mem_cons.mp ho with rfl | ho
        · exact ⟨Nat.le_refl offset, Nat.lt_add_of_pos_right hpos⟩
        · have ho' := hstart o ho
          omega
      · have ho' := hstart o ho
        dsimp only
        omega

theorem utf8Length_snoc (before : Text) (c : Char) :
    Text.utf8Length (before ++ [c]) = before.utf8Length + c.utf8Size :=
  Text.utf8Length_append before [c]

/-- What is reported of a text is right, wherever in a source the text stands. -/
theorem mayBegin_of_scan (before : Text) (hscan : Scan name previous t pieces)
    (hprevious : previous = lastOr none before) :
    ∀ o ∈ occurrencesFrom name before.utf8Length pieces, ∃ before' rest,
      MayBegin name (before ++ t) before' rest ∧ o = occurrenceBetween name before' rest := by
  induction hscan generalizing before with
  | nil => exact nofun
  | @plain previous c cs pieces hnone hscan ih =>
    have hprevious' : some c = lastOr none (before ++ [c]) := by rw [lastOr_append]; rfl
    have hrest := ih (before ++ [c]) hprevious'
    rwa [utf8Length_snoc, List.append_assoc] at hrest
  | @call previous rest tail pieces hafter hscan ih =>
    subst hprevious
    have hrest := ih _ (lastOr_append none before _).symm
    rw [Text.utf8Length_append, List.append_assoc] at hrest
    intro o ho
    rcases List.mem_cons.mp ho with rfl | ho
    · refine ⟨before, rest, afterName?_eq_some_iff_mayBegin.mp hafter, ?_⟩
      rw [occurrenceBetween_eq]
    · exact hrest o ho

theorem snoc_prefix {before' : Text} {c : Char} {cs : Text} (hbefore : before <+: before')
    (hne : before' ≠ before) (h : before' <+: before ++ c :: cs) : before ++ [c] <+: before' := by
  obtain ⟨middle, rfl⟩ := hbefore
  cases middle with
  | nil => exact absurd (List.append_nil before) hne
  | cons d middle =>
    obtain ⟨rfl, -⟩ := List.cons_prefix_cons.mp ((List.prefix_append_right_inj before).mp h)
    exact (List.prefix_append_right_inj before).mpr
      (List.cons_prefix_cons.mpr ⟨rfl, List.nil_prefix⟩)

/-- Wherever in a text a directive may begin, it is reported or taken up. -/
theorem covered_of_scan (before : Text) (hscan : Scan name previous t pieces)
    (hprevious : previous = lastOr none before) {before' rest : Text} (hbefore : before <+: before')
    (h : MayBegin name (before ++ t) before' rest) :
    ∃ o ∈ occurrencesFrom name before.utf8Length pieces,
      o.start ≤ before'.utf8Length ∧ before'.utf8Length < o.stop := by
  induction hscan generalizing before with
  | nil =>
    -- nothing is left that a name could stand in
    have hlength := congrArg List.length h.eq
    have hle := hbefore.length_le
    simp at hlength
    omega
  | @plain previous c cs pieces hnone hscan ih =>
    have hne : before' ≠ before := by
      rintro rfl
      subst hprevious
      rw [afterName?_eq_some_iff_mayBegin.mpr h] at hnone
      cases hnone
    have hnext : before ++ [c] <+: before' :=
      snoc_prefix hbefore hne (h.eq ▸ List.prefix_append before' _)
    have hprevious' : some c = lastOr none (before ++ [c]) := by rw [lastOr_append]; rfl
    have hrest := ih (before ++ [c]) hprevious' hnext (by rwa [List.append_assoc])
    rwa [utf8Length_snoc] at hrest
  | @call previous found tail pieces hafter hscan ih =>
    subst hprevious
    have hle : before.utf8Length ≤ before'.utf8Length := by
      obtain ⟨middle, rfl⟩ := hbefore
      rw [Text.utf8Length_append]
      omega
    by_cases hinside : before'.utf8Length
        < before.utf8Length + (written name (arguments? found)).utf8Length
    · exact ⟨_, List.mem_cons_self, hle, hinside⟩
    · -- it is behind the occurrence, and so among what is left to be scanned
      have hnext : before ++ written name (arguments? found) <+: before' := by
        have hbegins : before ++ written name (arguments? found) <+:
            before ++ (written name (arguments? found) ++ tail) := by
          rw [← List.append_assoc]
          exact List.prefix_append ..
        refine Text.prefix_of_utf8Length_le hbegins (h.eq ▸ List.prefix_append before' _) ?_
        · rw [Text.utf8Length_append]
          omega
      obtain ⟨o, ho, hcovers⟩ :=
        ih _ (lastOr_append none before _).symm hnext (by rwa [List.append_assoc])
      rw [Text.utf8Length_append] at ho
      exact ⟨o, List.mem_cons_of_mem _ ho, hcovers⟩

/-! ## Replacing what is reported -/

/-- The bytes from `cursor` on, with the given ranges replaced by what the expressions in them
become; the first error, from the left, ends it. -/
def splice (bytes : ByteArray) (transform : Option Text → Except DirectiveError Text) :
    (cursor : Nat) → List Occurrence → Except DirectiveError ByteArray
  | cursor, [] => .ok (bytes.extract cursor bytes.size)
  | cursor, o :: rest => do
    let text ← transform o.expr
    return bytes.extract cursor o.start ++ encode text ++ (← splice bytes transform o.stop rest)

/-- A source with what is reported of it replaced. What is kept in between are whole characters, and
so the bytes are those of a text again. -/
def spliced (name : Text) (transform : Option Text → Except DirectiveError Text) (source : Text) :
    Except DirectiveError Text := do
  let bytes ← splice (encode source) transform 0 (occurrences name source)
  return (decode bytes).toOption.getD []

/-- A text without each `@` behind which `@name` stands. -/
def dropEscapes (name : Text) : Text → Text
  | [] => []
  | c :: cs =>
    if c = '@' ∧ standsAtStart ('@' :: name) cs = true then dropEscapes name cs
    else c :: dropEscapes name cs

theorem unescape_eq_dropEscapes (hname : name.isIdentifier = true) (t : Text) :
    unescape name t = dropEscapes name t := by
  induction t with
  | nil => rfl
  | cons c cs ih => rw [unescape_cons hname, dropEscapes, ih]

namespace Registry

variable {available : Capabilities} {rule : Rule}

/-- What has been passed over since the last replacement is copied when the next one is due. -/
theorem splice_of_scan (head middle : Text) (hscan : Scan rule.name previous t pieces) :
    splice (encode (head ++ middle ++ t)) (rule.apply available) head.utf8Length
        (occurrencesFrom rule.name (head ++ middle).utf8Length pieces)
      = (expandPieces available rule pieces).map fun text ↦ encode (middle ++ text) := by
  -- `head` ends with the last replacement, and `middle` has been passed over since
  induction hscan generalizing head middle with
  | nil =>
    have hextract := Text.extract_encode head middle []
    rw [List.append_nil] at hextract ⊢
    rw [occurrencesFrom, splice, expandPieces, Text.size_encode, hextract, Except.map,
      List.append_nil]
  | @plain previous c cs pieces hnone hscan ih =>
    have hrest := ih head (middle ++ [c])
    rw [← List.append_assoc, utf8Length_snoc, List.append_assoc _ [c]] at hrest
    rw [occurrencesFrom, expandPieces, expandPiece]
    refine hrest.trans ?_
    cases expandPieces available rule pieces with
    | error error => rfl
    | ok text =>
      change Except.ok (encode (middle ++ [c] ++ text))
        = Except.ok (encode (middle ++ ([c] ++ text)))
      rw [List.append_assoc]
  | @call previous rest tail pieces hafter hscan ih =>
    have hrest := ih (head ++ middle ++ written rule.name (arguments? rest)) []
    rw [List.append_nil, Text.utf8Length_append] at hrest
    have hextract := Text.extract_encode head middle (written rule.name (arguments? rest) ++ tail)
    rw [occurrencesFrom, splice, expandPieces, expandPiece, ← List.append_assoc, hrest,
      List.append_assoc, hextract]
    cases rule.apply available ((arguments? rest).map (·.expr)) with
    | error error => rfl
    | ok text =>
      cases expandPieces available rule pieces with
      | error error => rfl
      | ok text' =>
        change Except.ok (encode middle ++ encode text ++ encode ([] ++ text'))
          = Except.ok (encode (middle ++ (text ++ text')))
        rw [List.nil_append, Text.encode_append, Text.encode_append, ByteArray.append_assoc]

theorem splice_eq_pass (available : Capabilities) (rule : Rule) (source : Text) :
    splice (encode source) (rule.apply available) 0 (occurrences rule.name source)
      = (pass available rule source).map encode :=
  splice_of_scan [] [] (scan_piecesFrom rule.name none source)

/-- A pass replaces what is reported, and does nothing else. -/
theorem spliced_eq_pass (available : Capabilities) (rule : Rule) (source : Text) :
    spliced rule.name (rule.apply available) source = pass available rule source := by
  rw [spliced, splice_eq_pass]
  cases pass available rule source with
  | error error => rfl
  | ok text =>
    change Except.ok ((decode (encode text)).toOption.getD []) = .ok text
    rw [Text.decode_encode]
    rfl

theorem expand_single (available : Capabilities) (rule : Rule) (source : Text) :
    (⟨[rule]⟩ : Registry).expand available source
      = (pass available rule source).map (dropEscapes rule.name) := by
  have hunescape : ∀ text, unescapeAll [rule.name] text = dropEscapes rule.name text := by
    intro text
    rw [unescapeAll_eq_foldl (by simpa using rule.name_isIdentifier), List.foldl_cons,
      List.foldl_nil, unescape_eq_dropEscapes rule.name_isIdentifier]
  rw [expand, passes]
  cases pass available rule source with
  | error error => rfl
  | ok text => exact congrArg Except.ok (hunescape text)

end Registry

/-- **Occurrences.** The occurrences of a directive in a source are reported from left to right and
do not overlap. Each of them is where the directive may begin, with the expression and the end that
are read behind its name; and wherever the directive may begin, one of them begins or is going on.
Expanding the source with this one rule replaces exactly these ranges and keeps all other bytes in
their order, and then drops each `@` behind which `@name` stands. -/
theorem occurrences_iff_mayBegin (rule : Rule) (available : Capabilities) (source : Text) :
    (occurrences rule.name source).Pairwise
      (fun o o' ↦ o.start < o'.start ∧ o.stop ≤ o'.start) ∧
    (∀ o ∈ occurrences rule.name source, o.start < o.stop ∧ ∃ before rest,
      MayBegin rule.name source before rest ∧ o = occurrenceBetween rule.name before rest) ∧
    (∀ before rest, MayBegin rule.name source before rest →
      ∃ o ∈ occurrences rule.name source, o.start = before.utf8Length ∨
        o.start < before.utf8Length ∧ before.utf8Length < o.stop) ∧
    ∃ spliced : Except DirectiveError Text,
      splice (encode source) (rule.apply available) 0 (occurrences rule.name source)
        = spliced.map encode ∧
      (⟨[rule]⟩ : Registry).expand available source = spliced.map (dropEscapes rule.name) := by
  have hscan : Scan rule.name none source (pieces rule.name source) :=
    scan_piecesFrom rule.name none source
  obtain ⟨hstart, hpairwise⟩ := occurrencesFrom_increasing rule.name (pieces rule.name source) 0
  refine ⟨hpairwise, fun o ho ↦ ⟨(hstart o ho).2, ?_⟩, fun before rest h ↦ ?_, ?_⟩
  · exact mayBegin_of_scan [] hscan rfl o ho
  · obtain ⟨o, ho, hle, hlt⟩ := covered_of_scan [] hscan rfl List.nil_prefix h
    exact ⟨o, ho, (Nat.eq_or_lt_of_le hle).imp_right fun hinside ↦ ⟨hinside, hlt⟩⟩
  · exact ⟨Registry.pass available rule source, Registry.splice_eq_pass available rule source,
      Registry.expand_single available rule source⟩

def lineBreak : Rule := ⟨"br".toList, fun _ ↦ .ok "<br>".toList, fun _ ↦ true, by decide⟩

/-- A name in the argument list of another, names that are none, and a list that is not closed. -/
def nestedBreaks : Text := "é@br (@br) u@br @@br @br(".toList

/-- Behind a character of two bytes a list takes up a second `@br`, and a list that is not closed
takes up nothing. -/
theorem occurrences_iff_mayBegin_nested :
    (∃ before rest, MayBegin lineBreak.name nestedBreaks before rest ∧
      (⟨2, 11, some "@br".toList⟩ : Occurrence) = occurrenceBetween lineBreak.name before rest) ∧
    MayBegin lineBreak.name nestedBreaks "é@br (".toList ") u@br @@br @br(".toList ∧
    ∃ o ∈ occurrences lineBreak.name nestedBreaks, o.start = 7 ∨ o.start < 7 ∧ 7 < o.stop := by
  have hoccurrences : occurrences lineBreak.name nestedBreaks =
      [⟨2, 11, some "@br".toList⟩, ⟨22, 25, none⟩] := by decide
  have hsecond : MayBegin lineBreak.name nestedBreaks "é@br (".toList
      ") u@br @@br @br(".toList := ⟨rfl, rfl, rfl⟩
  obtain ⟨-, hright, hcovered, -⟩ := occurrences_iff_mayBegin lineBreak .none
    nestedBreaks
  refine ⟨(hright _ ?_).2, hsecond, hcovered _ _ hsecond⟩
  rw [hoccurrences]
  exact List.mem_cons_self

/-- An `@` before an `@br` is dropped, though nothing is reported and so nothing is replaced. -/
theorem splice_ne_expand_escaped :
    occurrences lineBreak.name "@@br".toList = [] ∧
    splice (encode "@@br".toList) (lineBreak.apply .none) 0
        (occurrences lineBreak.name "@@br".toList) = .ok (encode "@@br".toList) ∧
    (⟨[lineBreak]⟩ : Registry).expand .none "@@br".toList = .ok "@br".toList := by
  have hnone : occurrences lineBreak.name "@@br".toList = [] := by decide
  refine ⟨hnone, ?_, by decide⟩
  rw [Registry.splice_eq_pass]
  rfl

end CompiledViews.Directive
