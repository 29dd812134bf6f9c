import CompiledViews.Path

/-!
# The names in a path

What the disk follows of a path are the segments between its slashes that are not empty. They are
the same for every spelling of a path that differs only in repeated slashes, and joining two paths
puts their names one after the other; so most of what is to be said about a path can be said about
its list of names.

Ancestors are spelled anew, segment by segment, and for them the same is true: the names of an
ancestor are the first names of the path.
-/

namespace CompiledViews

/-! ## Cutting a text at its slashes -/

namespace Text

variable {α : Type} [DecidableEq α] {c : α}

theorem splitAll_cons_self (c : α) (t : List α) : splitAll c (c :: t) = [] :: splitAll c t := by
  rw [splitAll, if_pos rfl]

theorem splitAll_cons_of_ne {d : α} (h : d ≠ c) (t : List α) :
    ∃ part parts, splitAll c t = part :: parts ∧ splitAll c (d :: t) = (d :: part) :: parts := by
  obtain ⟨part, parts, hparts⟩ := List.exists_cons_of_ne_nil (splitAll_ne_nil c t)
  refine ⟨part, parts, hparts, ?_⟩
  rw [splitAll, if_neg h, hparts]

theorem splitAll_append_cons (c : α) (s t : List α) :
    splitAll c (s ++ c :: t) = splitAll c s ++ splitAll c t := by
  induction s with
  | nil => rw [List.nil_append, splitAll_cons_self, splitAll, List.singleton_append]
  | cons d s ih =>
    by_cases h : d = c
    · subst h
      rw [List.cons_append, splitAll_cons_self, splitAll_cons_self, ih, List.cons_append]
    · obtain ⟨part, parts, hparts, hcons⟩ := splitAll_cons_of_ne h s
      rw [hcons, List.cons_append, splitAll, if_neg h, ih, hparts, List.cons_append,
        List.cons_append]

theorem splitAll_of_not_mem {t : List α} (h : c ∉ t) : splitAll c t = [t] := by
  induction t with
  | nil => rfl
  | cons d t ih =>
    have hd : d ≠ c := fun e ↦ h (by simp [e])
    rw [splitAll, if_neg hd, ih fun hc ↦ h (List.mem_cons_of_mem d hc)]

theorem not_mem_of_mem_splitAll {t part : List α} (h : part ∈ splitAll c t) : c ∉ part := by
  induction t generalizing part with
  | nil =>
    rw [splitAll, List.mem_singleton] at h
    simp [h]
  | cons d t ih =>
    by_cases hd : d = c
    · subst hd
      rw [splitAll_cons_self, List.mem_cons] at h
      rcases h with rfl | h
      · simp
      · exact ih h
    · obtain ⟨first, rest, hparts, hcons⟩ := splitAll_cons_of_ne hd t
      rw [hcons, List.mem_cons] at h
      rcases h with rfl | h
      · have hfirst : c ∉ first := ih (by simp [hparts])
        simp [hfirst, Ne.symm hd]
      · exact ih (by simp [hparts, h])

/-- Parts without a `c` are cut apart again after they have been joined. -/
theorem splitAll_join {parts : List (List α)} (h : ∀ part ∈ parts, c ∉ part) (hne : parts ≠ []) :
    splitAll c (join [c] parts) = parts := by
  induction parts with
  | nil => exact absurd rfl hne
  | cons part rest ih =>
    cases rest with
    | nil => rw [join, splitAll_of_not_mem (h part (by simp))]
    | cons next rest =>
      rw [join, List.append_assoc, List.singleton_append, splitAll_append_cons,
        splitAll_of_not_mem (h part (by simp)), ih (fun p hp ↦ h p (by simp [hp])) (by simp),
        List.singleton_append]
      simp

theorem join_splitAll (c : α) (t : List α) : join [c] (splitAll c t) = t := by
  induction t with
  | nil => rfl
  | cons d t ih =>
    obtain ⟨part, parts, hparts⟩ := List.exists_cons_of_ne_nil (splitAll_ne_nil c t)
    by_cases hd : d = c
    · subst hd
      rw [splitAll_cons_self, hparts, join, ← hparts, ih]
      · simp
      · simp
    · obtain ⟨first, rest, hfirst, hcons⟩ := splitAll_cons_of_ne hd t
      rw [hcons]
      rw [hfirst] at ih
      cases rest with
      | nil =>
        rw [join] at ih ⊢
        rw [ih]
      | cons next rest =>
        rw [join] at ih ⊢
        · rw [List.cons_append, List.cons_append, ih]
        · simp
        · simp

theorem splitAll_injective (c : α) {s t : List α} (h : splitAll c s = splitAll c t) : s = t := by
  rw [← join_splitAll c s, h, join_splitAll]

theorem splitAll_append (c : α) (s : List α) :
    ∃ before last, splitAll c s = before ++ [last] ∧
      ∀ t, c ∉ t → splitAll c (s ++ t) = before ++ [last ++ t] := by
  induction s with
  | nil => exact ⟨[], [], rfl, fun t ht ↦ splitAll_of_not_mem ht⟩
  | cons d s ih =>
    obtain ⟨before, last, hs, hst⟩ := ih
    by_cases hd : d = c
    · subst hd
      refine ⟨[] :: before, last, by rw [splitAll_cons_self, hs, List.cons_append], ?_⟩
      intro t ht
      rw [List.cons_append, splitAll_cons_self, hst t ht, List.cons_append]
    · cases before with
      | nil =>
        refine ⟨[], d :: last, by rw [splitAll, if_neg hd, hs]; rfl, ?_⟩
        intro t ht
        rw [List.cons_append, splitAll, if_neg hd, hst t ht]
        rfl
      | cons first before =>
        refine ⟨(d :: first) :: before, last, by rw [splitAll, if_neg hd, hs]; rfl, ?_⟩
        intro t ht
        rw [List.cons_append, splitAll, if_neg hd, hst t ht]
        rfl

end Text

/-! ## Names -/

namespace Path

open PathSymbol

variable {α : Type} [DecidableEq α] [PathSymbol α]

/-- The segments of a path that are not empty. -/
def names (p : Path α) : List (List α) := p.segments.filter (· ≠ [])

/-- The slash that makes a path absolute only cuts off an empty segment. -/
theorem names_eq (p : Path α) : p.names = (Text.splitAll slash p.spelling).filter (· ≠ []) := by
  rw [names, segments, body]
  split
  · next h =>
    rw [isAbsolute, beq_iff_eq, List.head?_eq_some_iff] at h
    obtain ⟨rest, hrest⟩ := h
    rw [hrest, List.tail_cons, Text.splitAll_cons_self]
    simp
  · rfl

/-- The spelling of a path to which something is to be appended: with a slash at its end. -/
def opened (p : Path α) : List α :=
  if p.spelling = [] ∨ p.spelling.getLast? = some slash then p.spelling else p.spelling ++ [slash]

theorem join_of_isAbsolute {base p : Path α} (h : p.isAbsolute = true) : base.join p = p :=
  if_pos h

theorem join_eq_opened {base p : Path α} (h : p.isAbsolute = false) :
    base.join p = ⟨base.opened ++ p.spelling⟩ := by
  rw [join, if_neg (by simp [h]), opened]
  split
  · rfl
  · rw [List.append_assoc, List.singleton_append]

/-- Two paths, one after the other, may be appended as one, unless the first is empty or has a slash
at its end. -/
theorem join_join {base p q : Path α} (hp : p.isAbsolute = false) (hq : q.isAbsolute = false)
    (hempty : p.spelling ≠ []) (hlast : p.spelling.getLast? ≠ some slash) :
    (base.join p).join q = base.join ⟨p.spelling ++ slash :: q.spelling⟩ := by
  have hboth : (⟨p.spelling ++ slash :: q.spelling⟩ : Path α).isAbsolute = false := by
    obtain ⟨c, rest, hc⟩ := List.exists_cons_of_ne_nil hempty
    rw [isAbsolute, hc] at hp
    rw [isAbsolute, hc]
    exact hp
  have hopened : (base.join p).opened = base.opened ++ p.spelling ++ [slash] := by
    rw [join_eq_opened hp, opened, if_neg]
    simp [hempty, List.getLast?_append, hlast, Option.or_eq_some_iff]
  rw [join_eq_opened hq, join_eq_opened hboth, hopened]
  simp

theorem isAbsolute_join {base p : Path α} (h : p.isAbsolute = false) :
    (base.join p).isAbsolute = base.isAbsolute := by
  rw [join, if_neg (by simp [h])]
  cases hb : base.spelling with
  | nil => simpa [isAbsolute, hb] using h
  | cons c rest =>
    split
    · simp [isAbsolute, hb]
    · simp [isAbsolute, hb]

theorem isAbsolute_join_iff {base p : Path α} :
    (base.join p).isAbsolute = true ↔ p.isAbsolute = true ∨ base.isAbsolute = true := by
  by_cases h : p.isAbsolute = true
  · rw [join_of_isAbsolute h]
    exact ⟨.inl, fun _ ↦ h⟩
  · rw [isAbsolute_join (Bool.not_eq_true _ ▸ h)]
    exact ⟨.inr, fun habsolute ↦ habsolute.resolve_left h⟩

theorem names_join {base p : Path α} (h : p.isAbsolute = false) :
    (base.join p).names = base.names ++ p.names := by
  rw [names_eq, names_eq, names_eq, join, if_neg (by simp [h])]
  split
  · next hend =>
    rcases hend with hnil | hslash
    · simp [hnil, Text.splitAll]
    · obtain ⟨before, hbefore⟩ := List.getLast?_eq_some_iff.mp hslash
      rw [hbefore, List.append_assoc, List.singleton_append, Text.splitAll_append_cons,
        Text.splitAll_append_cons]
      simp [Text.splitAll]
  · rw [Text.splitAll_append_cons, List.filter_append]

/-! ## Ancestors -/

theorem map_fst_markedSegments (p : Path α) : p.markedSegments.map (·.1) = p.segments := by
  rw [markedSegments]
  split
  · next h => exact absurd h (Text.splitAll_ne_nil _ _)
  · next first rest h =>
    rw [h, List.map_cons, List.map_map]
    simp [Function.comp_def]

theorem head_ne_nil_of_not_isAbsolute {p : Path α} (h : p.isAbsolute = false)
    (hne : p.spelling ≠ []) {first : List α} {rest : List (List α)}
    (hfirst : p.segments = first :: rest) : first ≠ [] := by
  obtain ⟨c, t, hc⟩ := List.exists_cons_of_ne_nil hne
  have hslash : c ≠ slash := by
    rintro rfl
    simp [isAbsolute, hc] at h
  obtain ⟨part, parts, -, hcons⟩ := Text.splitAll_cons_of_ne hslash t
  rw [segments, body, if_neg (by simp [h]), hc, hcons, List.cons.injEq] at hfirst
  rw [← hfirst.1]
  simp

private theorem prefix_of_dropWhile_reverse {β : Type} (l : List β) (f : β → Bool) :
    (l.reverse.dropWhile f).reverse <+: l := by
  rw [← List.reverse_suffix, List.reverse_reverse]
  exact List.dropWhile_suffix f

theorem parent?_eq_some {p q : Path α} (h : p.parent? = some q) :
    ∃ kept, kept <+: p.segments ∧ p.spelling ≠ [] ∧
      q = ⟨(if p.isAbsolute then [slash] else []) ++ Text.join [slash] kept⟩ := by
  rw [parent?] at h
  split at h
  · cases h
  · next marked before hmarked =>
    have hbefore : before.reverse <+: p.markedSegments := by
      refine (?_ : before.reverse <+: _).trans (prefix_of_dropWhile_reverse _ (·.2.isNone))
      rw [hmarked, List.reverse_cons]
      exact List.prefix_append _ _
    refine ⟨(before.dropWhile (·.2.isNone)).reverse.map (·.1), ?_, ?_, ?_⟩
    · rw [← map_fst_markedSegments]
      refine List.IsPrefix.map _ (List.IsPrefix.trans ?_ hbefore)
      simpa using prefix_of_dropWhile_reverse before.reverse (·.2.isNone)
    · intro hnil
      simp [markedSegments, segments, body, isAbsolute, hnil, Text.splitAll, component?] at hmarked
    · simpa using h.symm

theorem isAbsolute_of_parent? {p q : Path α} (h : p.parent? = some q) :
    q.isAbsolute = p.isAbsolute := by
  obtain ⟨kept, hkept, hne, rfl⟩ := parent?_eq_some h
  by_cases ha : p.isAbsolute = true
  · rw [if_pos ha, ha, isAbsolute]
    simp
  · rw [Bool.not_eq_true] at ha
    rw [ha, isAbsolute]
    cases kept with
    | nil => simp [Text.join]
    | cons first rest =>
      obtain ⟨later, hsegments⟩ := hkept
      have hfirst : first ≠ [] := head_ne_nil_of_not_isAbsolute ha hne hsegments.symm
      have hslash : slash ∉ first :=
        Text.not_mem_of_mem_splitAll (t := p.body) (by rw [← segments, ← hsegments]; simp)
      obtain ⟨c, t, rfl⟩ := List.exists_cons_of_ne_nil hfirst
      have hc : c ≠ slash := fun e ↦ hslash (by simp [e])
      cases rest <;> simp [Text.join, hc]

theorem names_of_parent? {p q : Path α} (h : p.parent? = some q) : q.names <+: p.names := by
  obtain ⟨kept, hkept, -, rfl⟩ := parent?_eq_some h
  have hslash : ∀ part ∈ kept, slash ∉ part := fun part hpart ↦
    Text.not_mem_of_mem_splitAll (hkept.mem hpart)
  have hnames : ∀ t : List α, t = Text.join [slash] kept →
      (Text.splitAll slash t).filter (· ≠ []) = kept.filter (· ≠ []) := by
    rintro t rfl
    cases kept with
    | nil => simp [Text.join, Text.splitAll]
    | cons first rest => rw [Text.splitAll_join hslash (by simp)]
  have hq : names (⟨(if p.isAbsolute then [slash] else []) ++ Text.join [slash] kept⟩ : Path α)
      = kept.filter (· ≠ []) := by
    rw [names_eq]
    split
    · rw [List.singleton_append, Text.splitAll_cons_self, List.filter_cons_of_neg (by simp)]
      exact hnames _ rfl
    · exact hnames _ rfl
  rw [hq, names]
  exact hkept.filter _

theorem names_of_mem_ancestors {p q : Path α} (h : q ∈ p.ancestors) :
    q.isAbsolute = p.isAbsolute ∧ q.names <+: p.names := by
  rw [ancestors] at h
  generalize p.spelling.length = fuel at h
  induction fuel generalizing p with
  | zero =>
    rw [ancestorsFrom, List.mem_singleton] at h
    exact h ▸ ⟨rfl, List.prefix_rfl⟩
  | succ fuel ih =>
    rw [ancestorsFrom] at h
    split at h
    · next parent hparent =>
      rcases List.mem_cons.mp h with rfl | h
      · exact ⟨rfl, List.prefix_rfl⟩
      · obtain ⟨habsolute, hnames⟩ := ih h
        exact ⟨habsolute.trans (isAbsolute_of_parent? hparent),
          hnames.trans (names_of_parent? hparent)⟩
    · rw [List.mem_singleton] at h
      exact h ▸ ⟨rfl, List.prefix_rfl⟩

end Path

end CompiledViews
