import CompiledViews.Proofs.Directive.Arguments
import CompiledViews.Proofs.Text.Bytes

/-!
# Argument lists are read as their grammar says

An argument list is a balanced expression in parentheses. Its reader does not follow the grammar: it
goes through the text once, counting the parentheses that are open and minding only whether it is in
a string. That this comes to the same is shown through the count. Behind the first parenthesis of
the list, a balanced text leaves the count where it was and never lets it fall to zero on the way;
and whatever does that is balanced, since the reader stops exactly where the count first does fall.

So the reader finds what the grammar allows and nothing else, there is only one way to read a list,
and no parenthesis is ever closed that is not open.
-/

namespace CompiledViews.Directive

/-! ## Counting parentheses -/

/-- How far a reader has come: how many parentheses are open, and what it is in the middle of. -/
structure Nesting where
  depth : Int
  reading : Reading
  deriving DecidableEq

namespace Nesting

/-- Goes on by one character. -/
def read : Nesting → Char → Nesting
  | ⟨depth, .escaped quote⟩, _ => ⟨depth, .quoted quote⟩
  | ⟨depth, .quoted quote⟩, c =>
    ⟨depth, if c = '\\' then .escaped quote else if c = quote then .plain else .quoted quote⟩
  | ⟨depth, .plain⟩, c =>
    if c = '\'' ∨ c = '"' then ⟨depth, .quoted c⟩
    else if c = '(' then ⟨depth + 1, .plain⟩
    else if c = ')' then ⟨depth - 1, .plain⟩
    else ⟨depth, .plain⟩

/-- Goes on by a text. -/
def after (nesting : Nesting) (t : Text) : Nesting := t.foldl read nesting

variable {nesting : Nesting} {s t : Text} {c : Char}

@[simp] theorem after_nil (nesting : Nesting) : nesting.after [] = nesting := rfl

@[simp] theorem after_cons (nesting : Nesting) (c : Char) (t : Text) :
    nesting.after (c :: t) = (nesting.read c).after t := rfl

theorem after_append (nesting : Nesting) (s t : Text) :
    nesting.after (s ++ t) = (nesting.after s).after t := List.foldl_append

/-- Whether something stays open through a text and its beginnings. -/
def StaysOpen (nesting : Nesting) (t : Text) : Prop :=
  ∀ before, before <+: t → 0 < (nesting.after before).depth

theorem staysOpen_nil (h : 0 < nesting.depth) : nesting.StaysOpen [] := by
  intro before hbefore
  rwa [List.prefix_nil.mp hbefore]

theorem staysOpen_cons :
    nesting.StaysOpen (c :: t) ↔ 0 < nesting.depth ∧ (nesting.read c).StaysOpen t := by
  constructor
  · intro h
    exact ⟨h [] (List.nil_prefix ..), fun before hbefore ↦
      h (c :: before) ((List.prefix_cons_inj c).mpr hbefore)⟩
  · rintro ⟨hdepth, h⟩ before hbefore
    rcases List.prefix_cons_iff.mp hbefore with rfl | ⟨rest, rfl, hrest⟩
    · exact hdepth
    · exact h rest hrest

theorem staysOpen_append :
    nesting.StaysOpen (s ++ t) ↔ nesting.StaysOpen s ∧ (nesting.after s).StaysOpen t := by
  induction s generalizing nesting with
  | nil =>
    refine ⟨fun h ↦ ⟨staysOpen_nil (h [] (List.nil_prefix ..)), h⟩, And.right⟩
  | cons c s ih => rw [List.cons_append, staysOpen_cons, ih, staysOpen_cons, after_cons, and_assoc]

end Nesting

def nesting (t : Text) : Nesting := Nesting.after ⟨0, .plain⟩ t

/-! ## What the reader of a list counts

With `depth + 1` parentheses open, it looks for the one that closes the outermost. -/

variable {depth : Nat} {reading : Reading} {expr rest t : Text} {c : Char}

theorem map_cons_eq_some_iff {read : Option (Text × Text)} :
    read.map (.map (c :: ·) id) = some (expr, rest) ↔
      ∃ expr', expr = c :: expr' ∧ read = some (expr', rest) := by
  rcases read with _ | ⟨expr', rest'⟩
  · simp
  · simp only [Option.map_some, Prod.map_apply, id_eq, Option.some.injEq, Prod.mk.injEq]
    constructor
    · rintro ⟨rfl, rfl⟩
      exact ⟨expr', rfl, rfl, rfl⟩
    · rintro ⟨expr'', rfl, rfl, rfl⟩
      exact ⟨rfl, rfl⟩

/-- Unless it stops there, a reader goes on behind a character as the count says. -/
theorem closing_cons (h : ¬(reading = .plain ∧ c = ')' ∧ depth = 0)) :
    ∃ (depth' : Nat) (reading' : Reading),
      Nesting.read ⟨depth + 1, reading⟩ c = ⟨depth' + 1, reading'⟩ ∧
      ∀ t, closing depth reading (c :: t) = (closing depth' reading' t).map (.map (c :: ·) id) := by
  cases reading with
  | escaped quote => exact ⟨depth, .quoted quote, rfl, fun t ↦ by cases depth <;> rw [closing]⟩
  | quoted quote => exact ⟨depth, _, rfl, fun t ↦ by cases depth <;> rw [closing]⟩
  | plain =>
    by_cases hquote : c = '\'' ∨ c = '"'
    · exact ⟨depth, .quoted c, if_pos hquote, fun t ↦ closing_quote hquote⟩
    · have hread : Nesting.read ⟨depth + 1, .plain⟩ c = _ := if_neg hquote
      by_cases hopen : c = '('
      · subst hopen
        exact ⟨depth + 1, .plain, rfl, fun t ↦ closing_open⟩
      · by_cases hclose : c = ')'
        · subst hclose
          obtain ⟨outer, rfl⟩ := Nat.exists_eq_succ_of_ne_zero fun h0 ↦ h ⟨rfl, rfl, h0⟩
          refine ⟨outer, .plain, ?_, fun t ↦ closing_close⟩
          simp [Nesting.read]
        · refine ⟨depth, .plain, ?_, fun t ↦ closing_char ?_⟩
          · rw [hread, if_neg hopen, if_neg hclose]
          · simp only [not_or] at hquote
            simp [hopen, hclose, hquote]

/-- Where the reader stops, only the outermost parenthesis is open, and it has been open all the
time. -/
theorem nesting_of_closing (h : closing depth reading t = some (expr, rest)) :
    Nesting.after ⟨depth + 1, reading⟩ expr = ⟨1, .plain⟩ ∧
      Nesting.StaysOpen ⟨depth + 1, reading⟩ expr := by
  induction t generalizing depth reading expr with
  | nil => simp [closing] at h
  | cons c t ih =>
    by_cases hlast : reading = .plain ∧ c = ')' ∧ depth = 0
    · obtain ⟨rfl, rfl, rfl⟩ := hlast
      cases h
      exact ⟨rfl, Nesting.staysOpen_nil (by decide)⟩
    · obtain ⟨depth', reading', hread, hstep⟩ := closing_cons hlast
      rw [hstep] at h
      obtain ⟨expr', rfl, hrest⟩ := map_cons_eq_some_iff.mp h
      obtain ⟨hafter, hopen⟩ := ih hrest
      refine ⟨?_, Nesting.staysOpen_cons.mpr ⟨by change (0 : Int) < depth + 1; omega, ?_⟩⟩
      · rwa [Nesting.after_cons, hread]
      · rwa [hread]

/-- A reader that does not stop always has a parenthesis open. -/
theorem staysOpen_of_closing_eq_none (h : closing depth reading t = none) :
    Nesting.StaysOpen ⟨depth + 1, reading⟩ t := by
  have hdepth : (0 : Int) < depth + 1 := by omega
  induction t generalizing depth reading with
  | nil => exact Nesting.staysOpen_nil hdepth
  | cons c t ih =>
    by_cases hlast : reading = .plain ∧ c = ')' ∧ depth = 0
    · obtain ⟨rfl, rfl, rfl⟩ := hlast
      cases h
    · obtain ⟨depth', reading', hread, hstep⟩ := closing_cons hlast
      rw [hstep, Option.map_eq_none_iff] at h
      refine Nesting.staysOpen_cons.mpr ⟨hdepth, ?_⟩
      rw [hread]
      exact ih h (by omega)

/-- A reader goes through a text that leaves only the outermost parenthesis open, and lets it be
open all the time. -/
theorem closing_of_nesting (hafter : Nesting.after ⟨depth + 1, reading⟩ expr = ⟨1, .plain⟩)
    (hopen : Nesting.StaysOpen ⟨depth + 1, reading⟩ expr) (rest : Text) :
    closing depth reading (expr ++ ')' :: rest) = some (expr, rest) := by
  induction expr generalizing depth reading with
  | nil =>
    rw [Nesting.after_nil, Nesting.mk.injEq] at hafter
    obtain ⟨hdepth, rfl⟩ := hafter
    obtain rfl : depth = 0 := by omega
    rfl
  | cons c expr ih =>
    rw [Nesting.staysOpen_cons] at hopen
    by_cases hlast : reading = .plain ∧ c = ')' ∧ depth = 0
    · -- the count would fall to zero behind this parenthesis
      obtain ⟨rfl, rfl, rfl⟩ := hlast
      exact absurd (hopen.2 [] (List.nil_prefix ..)) (by decide)
    · obtain ⟨depth', reading', hread, hstep⟩ := closing_cons hlast
      rw [Nesting.after_cons, hread] at hafter
      rw [hread] at hopen
      rw [List.cons_append, hstep, ih hafter hopen.2]
      rfl

/-! ## What the reader accepts -/

/-- Texts that close the parentheses open before them, all but the outermost: balanced ones, as many
as there are parentheses and one more, each behind the parenthesis that ends the one before. -/
def ClosesTo : (depth : Nat) → Text → Prop
  | 0, expr => Balanced expr
  | depth + 1, expr =>
    ∃ inner outer, expr = inner ++ ')' :: outer ∧ Balanced inner ∧ ClosesTo depth outer

namespace ClosesTo

theorem char (hc : c ∉ ['(', ')', '\'', '"']) (h : ClosesTo depth expr) :
    ClosesTo depth (c :: expr) := by
  cases depth with
  | zero => exact .char hc h
  | succ depth =>
    obtain ⟨inner, outer, rfl, hinner, houter⟩ := h
    exact ⟨c :: inner, outer, rfl, .char hc hinner, houter⟩

theorem string {quote : Char} {body : Text} (hquote : quote = '\'' ∨ quote = '"')
    (hbody : StringBody quote body) (h : ClosesTo depth expr) :
    ClosesTo depth (quote :: (body ++ quote :: expr)) := by
  cases depth with
  | zero => exact .string hquote hbody h
  | succ depth =>
    obtain ⟨inner, outer, rfl, hinner, houter⟩ := h
    exact ⟨quote :: (body ++ quote :: inner), outer, by simp, .string hquote hbody hinner, houter⟩

theorem group (h : ClosesTo (depth + 1) expr) : ClosesTo depth ('(' :: expr) := by
  obtain ⟨inner, outer, rfl, hinner, houter⟩ := h
  cases depth with
  | zero => exact .group hinner houter
  | succ depth =>
    obtain ⟨next, outer, rfl, hnext, houter⟩ := houter
    exact ⟨'(' :: (inner ++ ')' :: next), outer, by simp, .group hinner hnext, houter⟩

end ClosesTo

/-- What a reader that is in the middle of something accepts: it first comes to the end of that. -/
def Accepts (depth : Nat) : Reading → Text → Prop
  | .plain, expr => ClosesTo depth expr
  | .quoted quote, expr =>
    ∃ body outer, expr = body ++ quote :: outer ∧ StringBody quote body ∧ ClosesTo depth outer
  | .escaped quote, expr =>
    ∃ c body outer, expr = c :: (body ++ quote :: outer) ∧ StringBody quote body ∧
      ClosesTo depth outer

/-- What the reader has gone through is as the grammar says. -/
theorem accepts_of_closing (hquote : ∀ quote, reading = .quoted quote ∨ reading = .escaped quote →
      quote = '\'' ∨ quote = '"') (h : closing depth reading t = some (expr, rest)) :
    t = expr ++ ')' :: rest ∧ Accepts depth reading expr := by
  induction t generalizing depth reading expr with
  | nil => simp [closing] at h
  | cons c t ih =>
    cases reading with
    | escaped quote =>
      rw [closing] at h
      obtain ⟨expr', rfl, hrest⟩ := map_cons_eq_some_iff.mp h
      have hquote' := hquote quote (.inr rfl)
      obtain ⟨rfl, body, outer, rfl, hbody, houter⟩ := ih (by simpa using hquote') hrest
      exact ⟨rfl, c, body, outer, rfl, hbody, houter⟩
    | quoted quote =>
      have hquote' := hquote quote (.inl rfl)
      rw [closing] at h
      obtain ⟨expr', rfl, hrest⟩ := map_cons_eq_some_iff.mp h
      by_cases hslash : c = '\\'
      · subst hslash
        rw [if_pos rfl] at hrest
        obtain ⟨rfl, c', body, outer, rfl, hbody, houter⟩ := ih (by simpa using hquote') hrest
        exact ⟨rfl, '\\' :: c' :: body, outer, rfl, .escape hbody, houter⟩
      · rw [if_neg hslash] at hrest
        by_cases hend : c = quote
        · subst hend
          rw [if_pos rfl] at hrest
          obtain ⟨rfl, houter⟩ := ih (by simp) hrest
          exact ⟨rfl, [], expr', rfl, .nil, houter⟩
        · rw [if_neg hend] at hrest
          obtain ⟨rfl, body, outer, rfl, hbody, houter⟩ := ih (by simpa using hquote') hrest
          exact ⟨rfl, c :: body, outer, rfl, .char hslash hend hbody, houter⟩
    | plain =>
      by_cases hstring : c = '\'' ∨ c = '"'
      · rw [closing_quote hstring] at h
        obtain ⟨expr', rfl, hrest⟩ := map_cons_eq_some_iff.mp h
        obtain ⟨rfl, body, outer, rfl, hbody, houter⟩ := ih (by simpa using hstring) hrest
        exact ⟨rfl, houter.string hstring hbody⟩
      · by_cases hopen : c = '('
        · subst hopen
          rw [closing_open] at h
          obtain ⟨expr', rfl, hrest⟩ := map_cons_eq_some_iff.mp h
          obtain ⟨rfl, hgroup⟩ := ih (by simp) hrest
          exact ⟨rfl, hgroup.group⟩
        · by_cases hclose : c = ')'
          · subst hclose
            cases depth with
            | zero =>
              cases h
              exact ⟨rfl, .nil⟩
            | succ depth =>
              rw [closing_close] at h
              obtain ⟨expr', rfl, hrest⟩ := map_cons_eq_some_iff.mp h
              obtain ⟨rfl, houter⟩ := ih (by simp) hrest
              exact ⟨rfl, [], expr', rfl, .nil, houter⟩
          · have hc : c ∉ ['(', ')', '\'', '"'] := by
              simp only [not_or] at hstring
              simp [hopen, hclose, hstring]
            rw [closing_char hc] at h
            obtain ⟨expr', rfl, hrest⟩ := map_cons_eq_some_iff.mp h
            obtain ⟨rfl, hcloses⟩ := ih (by simp) hrest
            exact ⟨rfl, ClosesTo.char hc hcloses⟩

theorem closing_eq_some_iff :
    closing 0 .plain t = some (expr, rest) ↔ t = expr ++ ')' :: rest ∧ Balanced expr := by
  constructor
  · exact accepts_of_closing (by simp)
  · rintro ⟨rfl, hbalanced⟩
    rw [closing_balanced hbalanced, closing_last]
    simp

/-- **Balance is a matter of counting.** A text is balanced if, behind an open parenthesis, it
leaves just that one open and never closes it on the way. -/
theorem balanced_iff_nesting : Balanced expr ↔
    Nesting.after ⟨1, .plain⟩ expr = ⟨1, .plain⟩ ∧ Nesting.StaysOpen ⟨1, .plain⟩ expr := by
  constructor
  · intro h
    have hread : closing 0 .plain (expr ++ [')']) = some (expr, []) :=
      closing_eq_some_iff.mpr ⟨rfl, h⟩
    have hnesting := nesting_of_closing hread
    exact hnesting
  · rintro ⟨hafter, hopen⟩
    have hread : closing 0 .plain (expr ++ [')']) = some (expr, []) :=
      closing_of_nesting hafter hopen []
    exact (closing_eq_some_iff.mp hread).2

/-! ## Argument lists -/

/-- Whether a text begins with an argument list, and what its parts are. -/
structure BeginsWithList (t gap expr rest : Text) : Prop where
  eq : t = gap ++ '(' :: (expr ++ ')' :: rest)
  blank : ∀ c ∈ gap, c = ' ' ∨ c = '\t'
  balanced : Balanced expr

/-- What is read of an argument list at the start of a text: the expression, and how many bytes the
list takes. -/
def argumentList? (t : Text) : Option (Text × Nat) :=
  (arguments? t).map fun arguments ↦ (arguments.expr, arguments.written.utf8Length)

/-- How far the reader of an argument list goes behind the gap: to the parenthesis that closes the
list, or to the end of the text. Without a list it does not begin. -/
def goneThrough (t : Text) : Text :=
  match t.dropWhile isGap with
  | '(' :: body => '(' :: ((closing 0 .plain body).map fun read ↦ read.1 ++ [')']).getD body
  | _ => []

variable {gap gap' expr' rest' : Text}

theorem isGap_iff : isGap c = true ↔ c = ' ' ∨ c = '\t' := by simp [isGap]

theorem BeginsWithList.cut (h : BeginsWithList t gap expr rest) :
    t.takeWhile isGap = gap ∧ t.dropWhile isGap = '(' :: (expr ++ ')' :: rest) := by
  have hgap : ∀ c ∈ gap, isGap c = true := fun c hc ↦ isGap_iff.mpr (h.blank c hc)
  rw [h.eq, List.takeWhile_append_of_pos hgap, List.dropWhile_append_of_pos hgap]
  exact ⟨List.append_nil gap, rfl⟩

theorem arguments?_eq_some_iff :
    arguments? t = some ⟨gap, expr⟩ ↔ ∃ rest, BeginsWithList t gap expr rest := by
  constructor
  · intro h
    rw [arguments?] at h
    split at h
    · next body hbody =>
      obtain ⟨⟨expr', rest⟩, hclosing, heq⟩ := Option.map_eq_some_iff.mp h
      cases heq
      obtain ⟨rfl, hbalanced⟩ := closing_eq_some_iff.mp hclosing
      refine ⟨rest, ?_, fun c hc ↦ ?_, hbalanced⟩
      · rw [← hbody, List.takeWhile_append_dropWhile]
      · exact isGap_iff.mp (List.all_eq_true.mp List.all_takeWhile c hc)
    · cases h
  · rintro ⟨rest, h⟩
    obtain ⟨hgap, hlist⟩ := h.cut
    rw [arguments?, hlist]
    change (closing 0 .plain (expr ++ ')' :: rest)).map _ = _
    rw [closing_eq_some_iff.mpr ⟨rfl, h.balanced⟩, hgap]
    rfl

theorem argumentList?_eq_some {size : Nat} : argumentList? t = some (expr, size) ↔
    ∃ gap rest, BeginsWithList t gap expr rest ∧
      size = (gap ++ '(' :: (expr ++ [')'])).utf8Length := by
  have hwritten : ∀ gap : Text, (⟨gap, expr⟩ : Arguments).written = gap ++ '(' :: (expr ++ [')']) :=
    fun gap ↦ by simp [Arguments.written]
  rw [argumentList?, Option.map_eq_some_iff]
  constructor
  · rintro ⟨⟨gap, expr⟩, harguments, heq⟩
    cases heq
    obtain ⟨rest, h⟩ := arguments?_eq_some_iff.mp harguments
    exact ⟨gap, rest, h, congrArg Text.utf8Length (hwritten gap)⟩
  · rintro ⟨gap, rest, h, rfl⟩
    refine ⟨⟨gap, expr⟩, arguments?_eq_some_iff.mpr ⟨rest, h⟩, ?_⟩
    rw [hwritten]

theorem BeginsWithList.unique (h : BeginsWithList t gap expr rest)
    (h' : BeginsWithList t gap' expr' rest') : gap = gap' ∧ expr = expr' ∧ rest = rest' := by
  obtain ⟨hgap, hlist⟩ := h.cut
  obtain ⟨hgap', hlist'⟩ := h'.cut
  have hbody := (List.cons.inj (hlist.symm.trans hlist')).2
  have hread := closing_eq_some_iff.mpr ⟨hbody, h'.balanced⟩
  rw [closing_eq_some_iff.mpr ⟨rfl, h.balanced⟩, Option.some.injEq, Prod.mk.injEq] at hread
  exact ⟨hgap.symm.trans hgap', hread⟩

theorem depth_pos_of_goneThrough {before after : Text}
    (h : goneThrough t = before ++ ')' :: after) : 0 < (nesting before).depth := by
  rw [goneThrough] at h
  split at h
  · next body _ =>
    cases before with
    | nil => cases h
    | cons c inner =>
      rw [List.cons_append, List.cons.injEq] at h
      obtain ⟨rfl, hinner⟩ := h
      have hprefix : inner <+: inner ++ ')' :: after := List.prefix_append ..
      rw [← hinner] at hprefix
      -- behind the first parenthesis one is open
      change 0 < (Nesting.after ⟨1, .plain⟩ inner).depth
      cases hclosing : closing 0 .plain body with
      | none =>
        rw [hclosing] at hprefix
        exact staysOpen_of_closing_eq_none hclosing inner hprefix
      | some read =>
        rw [hclosing] at hprefix hinner
        refine (nesting_of_closing hclosing).2 inner ?_
        refine List.prefix_of_prefix_length_le hprefix (List.prefix_append ..) ?_
        have hlength := congrArg List.length hinner
        simp at hlength
        omega
  · simp at h

/-- The reader stops where nothing is open any more. -/
theorem nesting_goneThrough (h : BeginsWithList t gap expr rest) :
    goneThrough t = '(' :: (expr ++ [')']) ∧ nesting (goneThrough t) = ⟨0, .plain⟩ := by
  have hclosing := closing_eq_some_iff.mpr ⟨(rfl : expr ++ ')' :: rest = _), h.balanced⟩
  have hread : goneThrough t = '(' :: (expr ++ [')']) := by
    rw [goneThrough, h.cut.2]
    change '(' :: ((closing 0 .plain (expr ++ ')' :: rest)).map _).getD _ = _
    rw [hclosing]
    rfl
  refine ⟨hread, ?_⟩
  rw [hread]
  change Nesting.after ⟨1, .plain⟩ (expr ++ [')']) = _
  rw [Nesting.after_append, (balanced_iff_nesting.mp h.balanced).1]
  rfl

/-- How many bytes the gap takes before an argument list at the start of a text. -/
def gapSize (t : Text) : Nat := Text.utf8Length (t.takeWhile isGap)

theorem isBoundary_gapSize (t : Text) : t.IsBoundary (gapSize t) := by
  have hcut := Text.isBoundary_utf8Length (t.takeWhile isGap) (t.dropWhile isGap)
  rwa [List.takeWhile_append_dropWhile] at hcut

theorem BeginsWithList.cutOut (h : BeginsWithList t gap expr rest) {size : Nat}
    (hsize : size = (gap ++ '(' :: (expr ++ [')'])).utf8Length) :
    t.IsBoundary (gapSize t + 1) ∧ t.IsBoundary (size - 1) ∧ t.IsBoundary size ∧
      (Disk.encode t).extract (gapSize t + 1) (size - 1) = Disk.encode expr := by
  have hopen : gapSize t + 1 = Text.utf8Length (gap ++ ['(']) := by
    rw [gapSize, h.cut.1, Text.utf8Length_append]
    rfl
  have hclose : size - 1 = Text.utf8Length (gap ++ ['('] ++ expr) := by
    have hlist : gap ++ '(' :: (expr ++ [')']) = gap ++ ['('] ++ expr ++ [')'] := by simp
    have hlast : Text.utf8Length [')'] = 1 := rfl
    rw [hsize, hlist, Text.utf8Length_append, hlast, Nat.add_sub_cancel]
  have heq : t = gap ++ ['('] ++ expr ++ ')' :: rest := by rw [h.eq]; simp
  have hlist : t = gap ++ '(' :: (expr ++ [')']) ++ rest := by rw [h.eq]; simp
  refine ⟨?_, ?_, ?_, ?_⟩
  · rw [hopen, heq, List.append_assoc (gap ++ ['('])]
    exact Text.isBoundary_utf8Length _ _
  · rw [hclose, heq]
    exact Text.isBoundary_utf8Length _ _
  · rw [hsize, hlist]
    exact Text.isBoundary_utf8Length _ _
  · rw [hopen, hclose, heq]
    exact Text.extract_encode _ _ _

/-- **Argument lists.** What is read at the start of a text is the expression of the argument list
that the text begins with, of which there is at most one, and the size of that list in bytes;
nothing is read where the text does not begin with a list. On the way no parenthesis is closed that
is not open, and the reader stops where none is open any more; and whatever is cut out of the text
is cut between characters. -/
theorem argumentList?_iff_grammar (t : Text) :
    (∀ expr size, argumentList? t = some (expr, size) ↔
      ∃ gap rest, BeginsWithList t gap expr rest ∧
        size = (gap ++ '(' :: (expr ++ [')'])).utf8Length) ∧
    (∀ gap expr rest gap' expr' rest', BeginsWithList t gap expr rest →
      BeginsWithList t gap' expr' rest' → gap = gap' ∧ expr = expr' ∧ rest = rest') ∧
    (argumentList? t = none ↔ ¬∃ gap expr rest, BeginsWithList t gap expr rest) ∧
    (∀ before after, goneThrough t = before ++ ')' :: after → 0 < (nesting before).depth) ∧
    t.IsBoundary (gapSize t) ∧
    ∀ expr size, argumentList? t = some (expr, size) →
      nesting (goneThrough t) = ⟨0, .plain⟩ ∧
      t.IsBoundary (gapSize t + 1) ∧ t.IsBoundary (size - 1) ∧ t.IsBoundary size ∧
      (Disk.encode t).extract (gapSize t + 1) (size - 1) = Disk.encode expr := by
  refine ⟨fun expr size ↦ argumentList?_eq_some,
    fun gap expr rest gap' expr' rest' ↦ BeginsWithList.unique, ?_,
    fun before after ↦ depth_pos_of_goneThrough, isBoundary_gapSize t, ?_⟩
  · rw [Option.eq_none_iff_forall_ne_some]
    constructor
    · rintro hnone ⟨gap, expr, rest, h⟩
      exact hnone (expr, _) (argumentList?_eq_some.mpr ⟨gap, rest, h, rfl⟩)
    · rintro hnone ⟨expr, size⟩ hread
      obtain ⟨gap, rest, h, -⟩ := argumentList?_eq_some.mp hread
      exact hnone ⟨gap, expr, rest, h⟩
  · intro expr size hread
    obtain ⟨gap, rest, h, hsize⟩ := argumentList?_eq_some.mp hread
    exact ⟨(nesting_goneThrough h).2, h.cutOut hsize⟩

/-- A gap, a group and a string that has a parenthesis and an escaped quote in it, with characters
of more than one byte. -/
theorem argumentList?_iff_grammar_nested :
    BeginsWithList " \t(é, (1) ')\\'') ü)".toList " \t".toList "é, (1) ')\\''".toList " ü)".toList ∧
    argumentList? " \t(é, (1) ')\\'') ü)".toList = some ("é, (1) ')\\''".toList, 17) := by
  have hstring : StringBody '\'' [')', '\\', '\''] := .char (by decide) (by decide) (.escape .nil)
  have hbalanced : Balanced "é, (1) ')\\''".toList :=
    .char (by decide) (.char (by decide) (.char (by decide) (.group (.char (by decide) .nil)
      (.char (by decide) (.string (.inl rfl) hstring .nil)))))
  have hblank : ∀ c ∈ [' ', '\t'], c = ' ' ∨ c = '\t' := by simp
  have hlist : BeginsWithList " \t(é, (1) ')\\'') ü)".toList " \t".toList "é, (1) ')\\''".toList
      " ü)".toList := ⟨rfl, hblank, hbalanced⟩
  obtain ⟨hread, -⟩ := argumentList?_iff_grammar " \t(é, (1) ')\\'') ü)".toList
  exact ⟨hlist, (hread _ _).mpr ⟨_, _, hlist, rfl⟩⟩

end CompiledViews.Directive
