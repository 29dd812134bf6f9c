import CompiledViews.Proofs.Directive.Expression
import CompiledViews.Proofs.Directive.Occurrences

/-!
# Arguments stay in their parentheses

Several built-in directives put their argument between parentheses of the template language. What is
reported as an argument list has balanced text in it, and the rules take from it what is still
balanced: blanks are cut off at its ends, and the key of an assignment is cut off at its front,
which ends in the middle of nothing. So the parenthesis that a rule opens is closed by the one that
it has put behind the argument, whatever the argument says.

The argument of an assignment is its value, and behind the parenthesis comes the sanitize filter.
There is no value that the filter would apply to in part.
-/

namespace CompiledViews

namespace Directive

variable {s t expr name source : Text} {c quote : Char}

/-! ## Balance -/

/-- A character that counts for nothing outside of strings. -/
def IsOrdinary (c : Char) : Prop := c ∉ ['(', ')', '\'', '"']

theorem isOrdinary_of_isBlank (h : Text.isBlank c = true) : IsOrdinary c := by
  intro hc
  simp only [List.mem_cons, List.not_mem_nil, or_false] at hc
  rcases hc with rfl | rfl | rfl | rfl <;> exact absurd h (by decide)

theorem StringBody.plain (h : ∀ c ∈ t, c ≠ '\\' ∧ c ≠ quote) : StringBody quote t := by
  induction t with
  | nil => exact .nil
  | cons c t ih =>
    obtain ⟨hslash, hquote⟩ := h c List.mem_cons_self
    exact .char hslash hquote (ih fun d hd ↦ h d (List.mem_cons_of_mem c hd))

namespace Balanced

theorem ordinary (h : ∀ c ∈ t, IsOrdinary c) : Balanced t := by
  induction t with
  | nil => exact .nil
  | cons c t ih =>
    exact .char (h c List.mem_cons_self) (ih fun d hd ↦ h d (List.mem_cons_of_mem c hd))

theorem append (hs : Balanced s) (ht : Balanced t) : Balanced (s ++ t) := by
  obtain ⟨hafter, hopen⟩ := balanced_iff_nesting.mp hs
  obtain ⟨hafter', hopen'⟩ := balanced_iff_nesting.mp ht
  refine balanced_iff_nesting.mpr ⟨?_, Nesting.staysOpen_append.mpr ⟨hopen, ?_⟩⟩
  · rw [Nesting.after_append, hafter, hafter']
  · rwa [hafter]

/-- Behind balanced text one begins anew. -/
theorem of_append_left (hs : Balanced s) (h : Balanced (s ++ t)) : Balanced t := by
  obtain ⟨hafter, -⟩ := balanced_iff_nesting.mp hs
  obtain ⟨hafter', hopen⟩ := balanced_iff_nesting.mp h
  rw [Nesting.after_append, hafter] at hafter'
  have hopen' := (Nesting.staysOpen_append.mp hopen).2
  rw [hafter] at hopen'
  exact balanced_iff_nesting.mpr ⟨hafter', hopen'⟩

end Balanced

/-- The quotes that a reader may be between. -/
def Reading.IsQuoted : Reading → Prop
  | .plain => True
  | .quoted quote | .escaped quote => quote = '\'' ∨ quote = '"'

theorem isQuoted_read {nesting : Nesting} (h : nesting.reading.IsQuoted) (c : Char) :
    (nesting.read c).reading.IsQuoted := by
  obtain ⟨depth, reading⟩ := nesting
  cases reading with
  | escaped quote => exact h
  | quoted quote =>
    rw [Nesting.read]
    dsimp only
    split
    · exact h
    · split
      · trivial
      · exact h
  | plain =>
    rw [Nesting.read]
    split
    · assumption
    · split
      · trivial
      · split <;> trivial

theorem isQuoted_after {nesting : Nesting} (h : nesting.reading.IsQuoted) (t : Text) :
    (nesting.after t).reading.IsQuoted := by
  induction t generalizing nesting with
  | nil => exact h
  | cons c t ih => exact ih (isQuoted_read h c)

/-- An ordinary character ends nothing, so a reader that is in the middle of nothing behind it has
not been in the middle of something before. -/
theorem eq_of_read_ordinary {nesting : Nesting} {depth : Int} (hquoted : nesting.reading.IsQuoted)
    (hc : IsOrdinary c) (h : nesting.read c = ⟨depth, .plain⟩) : nesting = ⟨depth, .plain⟩ := by
  simp only [IsOrdinary, List.mem_cons, List.not_mem_nil, or_false, not_or] at hc
  obtain ⟨depth', reading⟩ := nesting
  cases reading with
  | escaped quote => cases h
  | quoted quote =>
    rw [Nesting.read, Nesting.mk.injEq] at h
    have hne : c ≠ quote := by
      rintro rfl
      rcases hquoted with rfl | rfl <;> simp at hc
    rw [if_neg hne] at h
    split at h <;> cases h.2
  | plain =>
    rw [Nesting.read] at h
    simpa [hc] using h

theorem Balanced.of_append_right (ht : ∀ c ∈ t, IsOrdinary c) (h : Balanced (s ++ t)) :
    Balanced s := by
  obtain ⟨hafter, hopen⟩ := balanced_iff_nesting.mp h
  refine balanced_iff_nesting.mpr ⟨?_, (Nesting.staysOpen_append.mp hopen).1⟩
  rw [Nesting.after_append] at hafter
  have hquoted : (Nesting.after ⟨1, .plain⟩ s).reading.IsQuoted :=
    isQuoted_after (show (Nesting.mk 1 .plain).reading.IsQuoted from trivial) s
  -- nothing more is needed of the text before than where it leaves the reader
  generalize Nesting.after ⟨1, .plain⟩ s = nesting at hafter hquoted
  clear h hopen
  induction t generalizing nesting with
  | nil => exact hafter
  | cons c t ih =>
    have hrest := ih (fun d hd ↦ ht d (List.mem_cons_of_mem c hd)) (nesting.read c) hafter
      (isQuoted_read hquoted c)
    exact eq_of_read_ordinary hquoted (ht c List.mem_cons_self) hrest

theorem Balanced.trim (h : Balanced t) : Balanced t.trim := by
  obtain ⟨before, after, heq, hbefore, hafter⟩ := t.exists_trim
  rw [heq] at h
  have hstart : Balanced (before ++ t.trim) :=
    .of_append_right (fun c hc ↦ isOrdinary_of_isBlank (hafter c hc)) h
  exact .of_append_left (.ordinary fun c hc ↦ isOrdinary_of_isBlank (hbefore c hc)) hstart

theorem balanced_of_mem_occurrences {o : Occurrence} (ho : o ∈ occurrences name source)
    (hexpr : o.expr = some expr) : Balanced expr := by
  obtain ⟨before, rest, -, rfl⟩ :=
    mayBegin_of_scan [] (scan_piecesFrom name none source) rfl o ho
  rw [occurrenceBetween] at hexpr
  split at hexpr
  · next expr' size hlist =>
    cases hexpr
    obtain ⟨gap, after, hbegins, -⟩ := argumentList?_eq_some.mp hlist
    exact hbegins.balanced
  · cases hexpr

/-! ## What the rules take from an argument list -/

namespace Builtin

variable {directive key value argument expansion filter : Text} {texts : List Text}
  {available : Capabilities} {rule : Rule}

theorem IsKey.balanced (h : IsKey t name) : Balanced t := by
  obtain ⟨before, after, heq, hbefore, hafter⟩ := t.exists_trim
  obtain ⟨quote, hquote, htrim⟩ := h.quoted
  have hbody : StringBody quote name := by
    refine StringBody.plain fun c hc ↦ ⟨?_, ?_⟩
    · rintro rfl
      exact Text.not_mem_of_isIdentifier h.isIdentifier (by decide) hc
    · rintro rfl
      refine Text.not_mem_of_isIdentifier h.isIdentifier ?_ hc
      rcases hquote with rfl | rfl <;> decide
  rw [heq, htrim]
  refine (Balanced.append ?_ (.string hquote hbody .nil)).append ?_
  · exact .ordinary fun c hc ↦ isOrdinary_of_isBlank (hbefore c hc)
  · exact .ordinary fun c hc ↦ isOrdinary_of_isBlank (hafter c hc)

/-! ## What the rules put around their argument -/

/-- The texts that the directive `name` with the argument list `(expr)` puts around its argument;
between any two of them comes the argument, in parentheses. -/
inductive Surrounds (filter : Text) :
    (name expr : Text) → (argument : Text) → (texts : List Text) → Prop
  | query (expr : Text) : Surrounds filter "wpquery".toList expr expr.trim
      ["\x7b% for post in query".toList, " %\x7d".toList]
  | rows (expr : Text) : Surrounds filter "acf".toList expr expr.trim
      ["\x7b% for row in rows".toList, " %\x7d".toList]
  | field (expr : Text) : Surrounds filter "acffield".toList expr expr.trim
      ["\x7b% if get_field".toList, " %\x7d\x7b\x7b get_field".toList,
        " \x7d\x7d\x7b% endif %\x7d".toList]
  | fieldGuard (expr : Text) : Surrounds filter "acfhas".toList expr expr.trim
      ["\x7b% for field in [get_field".toList, "] if field %\x7d".toList]
  | assignment {expr key name value : Text} (hexpr : expr.trim = key ++ ',' :: value)
      (hcomma : ',' ∉ key) (hkey : IsKey key name) :
      Surrounds filter "var".toList expr value.trim
        ["\x7b% set ".toList ++ name ++ " = ".toList, " | ".toList ++ filter ++ " %\x7d".toList]

def parenthesized (argument : Text) : Text := '(' :: argument ++ [')']

theorem Surrounds.balanced (h : Surrounds filter name expr argument texts) (hexpr : Balanced expr) :
    Balanced argument := by
  cases h with
  | query | rows | field | fieldGuard => exact hexpr.trim
  | @assignment expr key name value heq hcomma hkey =>
    -- the key is balanced and so is the comma, so what comes behind them begins anew
    have hlist : Balanced (key ++ [','] ++ value) := by
      rw [List.append_assoc]
      exact heq ▸ hexpr.trim
    have hfront : Balanced (key ++ [',']) := hkey.balanced.append (.char (by decide) .nil)
    exact (Balanced.of_append_left hfront hlist).trim

theorem Surrounds.no_parenthesis (hfilter : filter.isIdentifier = true)
    (h : Surrounds filter name expr argument texts) : ∀ t ∈ texts, '(' ∉ t ∧ ')' ∉ t := by
  cases h with
  | query | rows | field | fieldGuard => decide
  | @assignment expr key name value heq hcomma hkey =>
    have hnot : ∀ name : Text, name.isIdentifier = true → '(' ∉ name ∧ ')' ∉ name := by
      intro name hname
      constructor
      · exact Text.not_mem_of_isIdentifier hname (by decide)
      · exact Text.not_mem_of_isIdentifier hname (by decide)
    obtain ⟨hopen, hclose⟩ := hnot name hkey.isIdentifier
    obtain ⟨hopen', hclose'⟩ := hnot filter hfilter
    intro t ht
    simp only [List.mem_cons, List.not_mem_nil, or_false] at ht
    rcases ht with rfl | rfl
    · simp [hopen, hclose]
    · simp [hopen', hclose']

/-- The names of the directives that put their argument in parentheses. -/
def enclosing : List Text := ["wpquery", "acf", "acffield", "acfhas", "var"].map String.toList

/-- What such a directive expands to is what it puts around its argument, and the argument. -/
theorem exists_surrounds (hrule : rule ∈ rules filter) (hname : rule.name ∈ enclosing)
    (hok : rule.transform (some expr) = .ok expansion) : ∃ argument texts,
      Surrounds filter rule.name expr argument texts ∧
        expansion = Text.join (parenthesized argument) texts := by
  simp only [rules, List.mem_cons, List.not_mem_nil, or_false] at hrule
  rcases hrule with rfl | rfl | rfl | rfl | rfl | rfl | rfl | rfl | rfl | rfl | rfl
  · exact absurd hname (by decide)
  · obtain ⟨_, ⟨⟩, hreturn⟩ := exists_of_required hok
    cases hreturn
    exact ⟨_, _, .query expr, by simp [statement, call, parenthesized, Text.join]⟩
  · exact absurd hname (by decide)
  · exact absurd hname (by decide)
  · obtain ⟨_, ⟨⟩, hreturn⟩ := exists_of_required hok
    cases hreturn
    exact ⟨_, _, .rows expr, by simp [statement, call, parenthesized, Text.join]⟩
  · exact absurd hname (by decide)
  · exact absurd hname (by decide)
  · obtain ⟨_, ⟨⟩, hreturn⟩ := exists_of_required hok
    cases hreturn
    exact ⟨_, _, .field expr, by simp [statement, output, call, parenthesized, Text.join]⟩
  · obtain ⟨_, ⟨⟩, hreturn⟩ := exists_of_required hok
    cases hreturn
    exact ⟨_, _, .fieldGuard expr, by simp [statement, call, parenthesized, Text.join]⟩
  · exact absurd hname (by decide)
  · obtain ⟨_, ⟨⟩, hassigned⟩ := exists_of_required hok
    split at hassigned
    · next name value hpair =>
      obtain ⟨key, rest, heq, hcomma, hkey, rfl⟩ := keyAndValue_eq_ok hpair
      cases hassigned
      exact ⟨_, _, .assignment heq hcomma hkey, by simp [statement, parenthesized, Text.join]⟩
    · cases hassigned

/-- **Arguments stay in their parentheses.** Wherever an enabled built-in directive that puts its
argument in parentheses is reported with an argument list and can be expanded, its expansion is the
texts that the directive puts around the argument, which have no parentheses, with the argument in
parentheses between any two of them; and an argument list that is read from such a parenthesis on is
exactly that argument, up to the parenthesis which the directive has put behind it. -/
theorem argument_enclosed (hfilter : filter.isIdentifier = true) (hrule : rule ∈ rules filter)
    (hname : rule.name ∈ enclosing) (henabled : rule.enabled available = true) {o : Occurrence}
    (ho : o ∈ occurrences rule.name source) (hexpr : o.expr = some expr)
    (hok : rule.apply available o.expr = .ok expansion) :
    ∃ argument texts, Surrounds filter rule.name expr argument texts ∧
      expansion = Text.join (parenthesized argument) texts ∧
      (∀ t ∈ texts, '(' ∉ t ∧ ')' ∉ t) ∧
      ∀ before after, before ≠ [] → after ≠ [] → texts = before ++ after →
        expansion = Text.join (parenthesized argument) before ++
          (parenthesized argument ++ Text.join (parenthesized argument) after) ∧
        argumentList? (parenthesized argument ++ Text.join (parenthesized argument) after)
          = some (argument, (parenthesized argument).utf8Length) := by
  rw [Rule.apply, if_pos henabled, hexpr] at hok
  obtain ⟨argument, texts, hsurrounds, rfl⟩ := exists_surrounds hrule hname hok
  have hbalanced : Balanced argument := hsurrounds.balanced (balanced_of_mem_occurrences ho hexpr)
  refine ⟨argument, texts, hsurrounds, rfl, hsurrounds.no_parenthesis hfilter, ?_⟩
  intro before after hbefore hafter heq
  constructor
  · rw [heq, Text.join_append _ hbefore hafter]
  · have hlist : BeginsWithList
        (parenthesized argument ++ Text.join (parenthesized argument) after) []
        argument (Text.join (parenthesized argument) after) :=
      ⟨List.append_assoc ('(' :: argument) [')'] _, List.forall_mem_nil _, hbalanced⟩
    exact argumentList?_eq_some.mpr ⟨[], _, hlist, rfl⟩

/-- A value with a comma, a group and strings that have a parenthesis, a comma and an escaped quote
in them, behind a key in double quotes. -/
theorem argument_enclosed_assignment :
    (⟨0, 33, some " \"k\" , f(')', 'a,\\'(') , x ".toList⟩ : Occurrence) ∈
      occurrences "var".toList "@var( \"k\" , f(')', 'a,\\'(') , x )!".toList ∧
    ∃ argument texts,
      Surrounds "sanitize".toList "var".toList " \"k\" , f(')', 'a,\\'(') , x ".toList
        argument texts ∧
      "\x7b% set k = (f(')', 'a,\\'(') , x) | sanitize %\x7d".toList
        = Text.join (parenthesized argument) texts := by
  have hoccurrence : (⟨0, 33, some " \"k\" , f(')', 'a,\\'(') , x ".toList⟩ : Occurrence) ∈
      occurrences "var".toList "@var( \"k\" , f(')', 'a,\\'(') , x )!".toList := by decide
  have hrule :
      named "var" (assignment "sanitize".toList) (by decide) ∈ rules "sanitize".toList := by
    simp [rules]
  have hok : (named "var" (assignment "sanitize".toList) (by decide)).apply .none
      (some " \"k\" , f(')', 'a,\\'(') , x ".toList)
        = .ok "\x7b% set k = (f(')', 'a,\\'(') , x) | sanitize %\x7d".toList := by decide
  obtain ⟨argument, texts, hsurrounds, heq, -⟩ :=
    argument_enclosed (by decide) hrule (by decide) rfl hoccurrence rfl hok
  exact ⟨hoccurrence, argument, texts, hsurrounds, heq⟩

end Builtin

end Directive

end CompiledViews
