import CompiledViews.Proofs.Directive.Registration
import CompiledViews.Proofs.Directive.Scanning

/-!
# Any text can be written

A template can contain any text whatsoever: doubling the `@` before every name of a directive makes
the text literal, and expanding gives it back without any rule having been applied.

No pass finds anything, since behind the first of two `@` there is no name and the second one is
blocked. After the passes, each name takes its own `@` back. The names cannot get into one another's
way although one may begin with another: what stands behind an `@` is one identifier, so every
doubled `@` belongs to one name, and taking it away leaves the doubled ones of the other names as
they are. That is an induction on the text for a single name, and one on the list of names.
-/

namespace CompiledViews.Directive

variable {name : Text} {names : List Text} {t : Text}

/-! ## Doubling -/

/-- The text with each `@` doubled behind which one of the names stands. -/
def escape (names : List Text) : Text → Text
  | [] => []
  | c :: cs =>
    if c = '@' ∧ (names.any fun name ↦ standsAtStart name cs) = true then
      '@' :: '@' :: escape names cs
    else c :: escape names cs

@[simp] theorem escape_no_names (t : Text) : escape [] t = t := by
  induction t with
  | nil => rfl
  | cons c cs ih => simp [escape, ih]

@[simp] theorem head?_escape (names : List Text) (t : Text) :
    (escape names t).head? = t.head? := by
  cases t with
  | nil => rfl
  | cons c cs =>
    rw [escape]
    split
    · next h => simp [h.1]
    · rfl

theorem escape_append_plain {s : Text} (h : '@' ∉ s) (t : Text) :
    escape names (s ++ t) = s ++ escape names t := by
  induction s with
  | nil => rfl
  | cons c s ih =>
    rw [List.mem_cons, not_or] at h
    rw [List.cons_append, escape, if_neg (fun hc ↦ h.1 hc.1.symm), ih h.2, List.cons_append]

theorem exists_of_escape_eq_append {s rest : Text} (h : '@' ∉ s)
    (heq : escape names t = s ++ rest) :
    ∃ rest', t = s ++ rest' ∧ escape names rest' = rest := by
  induction s generalizing t with
  | nil => exact ⟨t, rfl, heq⟩
  | cons c s ih =>
    rw [List.mem_cons, not_or] at h
    cases t with
    | nil => cases heq
    | cons d t =>
      rw [escape] at heq
      split at heq
      · rw [List.cons_append, List.cons.injEq] at heq
        exact absurd heq.1 h.1
      · rw [List.cons_append, List.cons.injEq] at heq
        obtain ⟨rest', rfl, hrest⟩ := ih h.2 heq.2
        exact ⟨rest', by rw [heq.1, List.cons_append], hrest⟩

theorem standsAtStart_escape (names : List Text) (hname : name.isIdentifier = true) :
    standsAtStart name (escape names t) = standsAtStart name t := by
  have hat : '@' ∉ name := Text.not_mem_of_isIdentifier hname (by decide)
  have hstarts : ∀ rest : Text, (escape names rest).startsInIdentifier = rest.startsInIdentifier :=
    fun rest ↦ by rw [Text.startsInIdentifier, head?_escape, Text.startsInIdentifier]
  rw [Bool.eq_iff_iff, standsAtStart_iff, standsAtStart_iff]
  constructor
  · rintro ⟨rest, heq, hrest⟩
    obtain ⟨rest', rfl, rfl⟩ := exists_of_escape_eq_append hat heq
    exact ⟨rest', rfl, (hstarts rest').symm.trans hrest⟩
  · rintro ⟨rest, rfl, hrest⟩
    exact ⟨escape names rest, escape_append_plain hat rest, (hstarts rest).trans hrest⟩

/-- No single `@` is left before a name: in an escaped text `@name` only comes right behind an
`@` that belongs to it. -/
theorem not_standsAtStart_at_escape (hname : name.isIdentifier = true) (hmem : name ∈ names) :
    standsAtStart ('@' :: name) (escape names t) = false := by
  rw [Bool.eq_false_iff]
  intro h
  obtain ⟨rest, heq, hrest⟩ := standsAtStart_iff.mp h
  have hstands : ∀ u : Text, u = name ++ rest → standsAtStart name u = true :=
    fun u hu ↦ standsAtStart_iff.mpr ⟨rest, hu, hrest⟩
  cases t with
  | nil => cases heq
  | cons c cs =>
    rw [escape] at heq
    split at heq
    · rw [List.cons_append, List.cons.injEq] at heq
      have hdoubled := hstands _ heq.2
      rw [standsAtStart_cons hname (by decide)] at hdoubled
      cases hdoubled
    · next hsingle =>
      rw [List.cons_append, List.cons.injEq] at heq
      have hbehind := hstands _ heq.2
      rw [standsAtStart_escape _ hname] at hbehind
      exact hsingle ⟨heq.1, List.any_eq_true.mpr ⟨name, hmem, hbehind⟩⟩

/-! ## The passes -/

theorem piecesFrom_escape (hname : name.isIdentifier = true) (hmem : name ∈ names)
    (previous : Option Char) :
    piecesFrom name previous 0 (escape names t) = (escape names t).map .plain := by
  have hnone : ∀ (previous : Option Char) (c : Char) (u : Text),
      (previous.any blocksDirective = false → c = '@' → standsAtStart name u = false) →
        afterName? name previous (c :: u) = none := by
    intro previous c u hu
    rw [Option.eq_none_iff_forall_not_mem]
    intro rest hrest
    obtain ⟨hblocked, heq, hstarts⟩ := afterName?_eq_some_iff.mp hrest
    rw [List.cons_append, List.cons.injEq] at heq
    have hstands : standsAtStart name u = true := standsAtStart_iff.mpr ⟨rest, heq.2, hstarts⟩
    rw [hu hblocked heq.1] at hstands
    cases hstands
  induction t generalizing previous with
  | nil => rfl
  | cons c cs ih =>
    rw [escape]
    split
    · -- the first `@` is followed by another one, which is blocked by it
      rw [piecesFrom, hnone _ _ _ fun _ _ ↦ standsAtStart_cons hname (by decide)]
      dsimp only
      rw [piecesFrom, hnone _ _ _ fun hblocked ↦ by simp [blocksDirective] at hblocked]
      dsimp only
      rw [ih]
      rfl
    · next hsingle =>
      have hfree : c = '@' → standsAtStart name (escape names cs) = false := by
        intro hc
        rw [standsAtStart_escape _ hname, Bool.eq_false_iff]
        exact fun hstands ↦ hsingle ⟨hc, List.any_eq_true.mpr ⟨name, hmem, hstands⟩⟩
      rw [piecesFrom, hnone _ _ _ fun _ ↦ hfree]
      dsimp only
      rw [ih]
      rfl

theorem occurrencesFrom_plain (name : Text) (offset : Nat) (t : Text) :
    occurrencesFrom name offset (t.map .plain) = [] := by
  induction t generalizing offset with
  | nil => rfl
  | cons c cs ih => exact ih _

theorem occurrences_escape (hname : name.isIdentifier = true) (hmem : name ∈ names) :
    occurrences name (escape names t) = [] := by
  rw [occurrences, pieces, piecesFrom_escape hname hmem, occurrencesFrom_plain]

namespace Registry

/-- Rules whose names are escaped leave a text as it is, pass by pass. -/
theorem passes_escape {available : Capabilities} {rules : List Rule}
    (h : ∀ rule ∈ rules, rule.name ∈ names) :
    passes available rules (escape names t) = .ok (escape names t) := by
  induction rules with
  | nil => rfl
  | cons rule rest ih =>
    have hpass : pass available rule (escape names t) = .ok (escape names t) := by
      rw [pass, pieces, piecesFrom_escape rule.name_isIdentifier (h rule List.mem_cons_self),
        expandPieces_plain]
    rw [passes, hpass]
    exact ih fun rule hrule ↦ h rule (List.mem_cons_of_mem _ hrule)

end Registry

/-! ## Taking one `@` back -/

theorem unescapeFrom_copy (name t rest : Text) :
    unescapeFrom name t.length (t ++ rest) = t ++ unescapeFrom name 0 rest := by
  induction t with
  | nil => rfl
  | cons c t ih => rw [List.length_cons, List.cons_append, unescapeFrom, ih, List.cons_append]

theorem unescapeFrom_plain {s : Text} (h : '@' ∉ s) (rest : Text) :
    unescapeFrom name 0 (s ++ rest) = s ++ unescapeFrom name 0 rest := by
  induction s with
  | nil => rfl
  | cons c s ih =>
    rw [List.mem_cons, not_or] at h
    rw [List.cons_append, unescapeFrom, Text.dropBeginning?, if_neg h.1]
    dsimp only
    rw [ih h.2, List.cons_append]

/-- An `@` is taken away if behind it there is another one with the name. Nothing depends on what
has been dealt with before. -/
theorem unescape_cons (hname : name.isIdentifier = true) (c : Char) (cs : Text) :
    unescape name (c :: cs) =
      if c = '@' ∧ standsAtStart ('@' :: name) cs = true then unescape name cs
      else c :: unescape name cs := by
  have hat : '@' ∉ name := Text.not_mem_of_isIdentifier hname (by decide)
  obtain ⟨first, others, hcons⟩ := List.exists_cons_of_ne_nil (Text.ne_nil_of_isIdentifier hname)
  -- the name behind a second `@` is copied whether it is read or skipped
  have hcopied : ∀ rest, unescapeFrom name (name.length + 1) ('@' :: name ++ rest)
      = '@' :: name ++ unescape name rest := fun rest ↦ unescapeFrom_copy name ('@' :: name) rest
  have hread : ∀ rest, unescape name ('@' :: name ++ rest) = '@' :: name ++ unescape name rest := by
    intro rest
    have hsecond : Text.dropBeginning? ('@' :: '@' :: name) ('@' :: (name ++ rest)) = none := by
      have hne : '@' ≠ first := by
        rintro rfl
        exact hat (hcons ▸ List.mem_cons_self)
      rw [Text.dropBeginning?, if_pos rfl, hcons, List.cons_append, Text.dropBeginning?, if_neg hne]
    rw [List.cons_append, unescape, unescapeFrom, hsecond]
    dsimp only
    rw [unescapeFrom_plain hat, unescape, List.cons_append]
  rw [unescape, unescapeFrom]
  split
  · next rest hrest =>
    rw [Text.dropBeginning?_eq_some_iff, List.cons_append, List.cons.injEq] at hrest
    obtain ⟨rfl, rfl⟩ := hrest
    have hstands : standsAtStart ('@' :: name) ('@' :: name ++ rest)
        = !rest.startsInIdentifier := by
      rw [standsAtStart, Text.dropBeginning?_eq_some_iff.mpr rfl, Option.any_some]
    rw [hcopied, hread, hstands]
    cases rest.startsInIdentifier <;> simp
  · next hrest =>
    rw [if_neg, unescape]
    rintro ⟨rfl, hstands⟩
    obtain ⟨rest, rfl, -⟩ := standsAtStart_iff.mp hstands
    have hfound : Text.dropBeginning? ('@' :: '@' :: name) ('@' :: ('@' :: name ++ rest))
        = some rest := Text.dropBeginning?_eq_some_iff.mpr rfl
    rw [hfound] at hrest
    cases hrest

/-- One name takes back what was doubled for it, and leaves what was doubled for the others. -/
theorem unescape_escape (hname : name.isIdentifier = true)
    (hnames : ∀ other ∈ names, other.isIdentifier = true) (hnew : name ∉ names) :
    unescape name (escape (name :: names) t) = escape names t := by
  induction t with
  | nil => rfl
  | cons c cs ih =>
    have hnot : standsAtStart ('@' :: name) (escape (name :: names) cs) = false :=
      not_standsAtStart_at_escape hname List.mem_cons_self
    have hsingle : unescape name (c :: escape (name :: names) cs) = c :: escape names cs := by
      rw [unescape_cons hname, if_neg (by simp [hnot]), ih]
    rw [escape, List.any_cons]
    by_cases hc : c = '@'
    · subst hc
      by_cases hfirst : standsAtStart name cs = true
      · -- then no other name stands there
        have hothers : (names.any fun other ↦ standsAtStart other cs) = false := by
          rw [List.any_eq_false]
          intro other hother hstands
          have heq := eq_of_standsAtStart hname (hnames other hother) hfirst hstands
          exact hnew (heq ▸ hother)
        have hdouble : standsAtStart ('@' :: name) ('@' :: escape (name :: names) cs) = true := by
          rw [← standsAtStart_escape (name :: names) hname] at hfirst
          obtain ⟨rest, hrest, hstarts⟩ := standsAtStart_iff.mp hfirst
          exact standsAtStart_iff.mpr ⟨rest, by rw [hrest, List.cons_append], hstarts⟩
        rw [if_pos ⟨rfl, by simp [hfirst]⟩, unescape_cons hname, if_pos ⟨rfl, hdouble⟩, hsingle,
          escape, if_neg (by simp [hothers])]
      · -- an `@` that was doubled for another name is not followed by this one
        have hdouble : standsAtStart ('@' :: name) ('@' :: escape (name :: names) cs) = false := by
          rw [Bool.eq_false_iff]
          intro hstands
          obtain ⟨rest, hrest, hstarts⟩ := standsAtStart_iff.mp hstands
          rw [List.cons_append, List.cons.injEq] at hrest
          refine hfirst ?_
          rw [← standsAtStart_escape (name :: names) hname]
          exact standsAtStart_iff.mpr ⟨rest, hrest.2, hstarts⟩
        rw [escape]
        by_cases hothers : (names.any fun other ↦ standsAtStart other cs) = true
        · rw [if_pos ⟨rfl, by simp [hothers]⟩, if_pos ⟨rfl, hothers⟩, unescape_cons hname,
            if_neg (by simp [hdouble]), hsingle]
        · rw [if_neg (by simp [hfirst, hothers]), if_neg (by simp [hothers]), hsingle]
    · rw [if_neg fun h ↦ hc h.1, hsingle, escape, if_neg fun h ↦ hc h.1]

theorem hasDoubledAt_iff : Registry.hasDoubledAt t = true ↔ ['@', '@'] <:+: t := by
  fun_induction Registry.hasDoubledAt t with
  | case1 rest => exact iff_of_true rfl ⟨[], rest, rfl⟩
  | case2 c rest hne ih =>
    have hstart : ¬['@', '@'] <+: c :: rest := by
      rintro ⟨behind, heq⟩
      cases heq
      exact hne behind rfl rfl
    rw [ih, List.infix_cons_iff, or_iff_right hstart]
  | case3 => simp

/-- Where no two `@` stand together, there is nothing to be taken back. -/
theorem unescape_of_not_hasDoubledAt (hname : name.isIdentifier = true)
    (h : Registry.hasDoubledAt t = false) : unescape name t = t := by
  induction t with
  | nil => rfl
  | cons c cs ih =>
    have hrest : Registry.hasDoubledAt cs = false := by
      rw [Registry.hasDoubledAt.eq_def] at h
      split at h <;> simp_all
    rw [unescape_cons hname, if_neg, ih hrest]
    rintro ⟨rfl, hstands⟩
    obtain ⟨rest, rfl, -⟩ := standsAtStart_iff.mp hstands
    simp [Registry.hasDoubledAt] at h

/-- Leaving out the passes over texts without two `@` in a row makes no difference. -/
theorem unescapeAll_eq_foldl (hnames : ∀ name ∈ names, name.isIdentifier = true) (t : Text) :
    Registry.unescapeAll names t = names.foldl (fun text name ↦ unescape name text) t := by
  refine List.foldl_ext _ _ t fun text name hmem ↦ ?_
  split
  · rfl
  · next hsingle =>
    exact (unescape_of_not_hasDoubledAt (hnames name hmem) (by simpa using hsingle)).symm

theorem unescapeAll_escape (hnames : ∀ other ∈ names, other.isIdentifier = true)
    (hnodup : names.Nodup) : Registry.unescapeAll names (escape names t) = t := by
  rw [unescapeAll_eq_foldl hnames]
  induction names with
  | nil => simp
  | cons name names ih =>
    rw [List.nodup_cons] at hnodup
    have hothers : ∀ other ∈ names, other.isIdentifier = true :=
      fun other hother ↦ hnames other (List.mem_cons_of_mem _ hother)
    rw [List.foldl_cons, unescape_escape (hnames name List.mem_cons_self) hothers hnodup.1]
    exact ih hothers hnodup.2

/-! ## Any text -/

/-- **Escaping is complete.** In every registry that can come about, and with any capabilities, an
escaped text expands to the text itself, and to whichever rule's pass it comes, there is no
occurrence that the rule would be applied to. -/
theorem expand_escape {registry : Registry} (h : registry.Reachable) (available : Capabilities)
    (t : Text) :
    registry.expand available (escape registry.names t) = .ok t ∧
      ∀ before rule after text, registry.rules = before ++ rule :: after →
        Registry.passes available before (escape registry.names t) = .ok text →
        occurrences rule.name text = [] := by
  have hnames : ∀ name ∈ registry.names, name.isIdentifier = true :=
    fun _ ↦ Registry.isIdentifier_of_mem_names
  have hmem : ∀ rule ∈ registry.rules, rule.name ∈ registry.names :=
    fun _ hrule ↦ List.mem_map_of_mem hrule
  refine ⟨?_, ?_⟩
  · rw [Registry.expand, Registry.passes_escape hmem, Except.map,
      unescapeAll_escape hnames h.nodup_names]
  · intro before rule after text hrules hbefore
    have hrule : rule ∈ registry.rules := by simp [hrules]
    have hkept : Registry.passes available before (escape registry.names t)
        = .ok (escape registry.names t) :=
      Registry.passes_escape fun other hother ↦ hmem other (by simp [hrules, hother])
    obtain rfl : escape registry.names t = text := Except.ok.inj (hkept.symm.trans hbefore)
    exact occurrences_escape rule.name_isIdentifier (hmem rule hrule)

/-- With the built-in directives: three `@` in a row, a directive behind a word, one name that
begins with another, directives side by side, an argument list and a name that goes on. -/
theorem expand_escape_builtins :
    ∃ registry, Registry.empty.registerBuiltins "sanitize".toList = .ok registry ∧
      escape registry.names "@@@acf me@acfempty@wpend @var (1) @vary".toList
        = "@@@@acf me@@acfempty@@wpend @@var (1) @vary".toList ∧
      registry.expand .none "@@@@acf me@@acfempty@@wpend @@var (1) @vary".toList
        = .ok "@@@acf me@acfempty@wpend @var (1) @vary".toList := by
  obtain ⟨registry, hregister⟩ :
      ∃ registry, Registry.empty.registerBuiltins "sanitize".toList = .ok registry := ⟨_, rfl⟩
  have hescape : escape registry.names "@@@acf me@acfempty@wpend @var (1) @vary".toList
      = "@@@@acf me@@acfempty@@wpend @@var (1) @vary".toList := by
    cases hregister
    decide
  refine ⟨registry, hregister, hescape, ?_⟩
  rw [← hescape]
  exact (expand_escape (.builtins _ .empty hregister) .none _).1

end CompiledViews.Directive
