import CompiledViews.Proofs.Path.Names
import Mathlib.Data.List.Basic
import Mathlib.Data.List.TakeWhile

/-!
# Components

A component comes from a segment that counts. What the components of a path are is decided segment
by segment, except that a `.` counts only where nothing at all comes before it; so a relative path
that is appended to another brings its components with it, but for a leading `.`.
-/

namespace CompiledViews.Path

open PathSymbol

variable {α : Type} [DecidableEq α] [PathSymbol α]

/-! ## Segments that count -/

/-- What a segment stands for, by its spelling and whether nothing at all comes before it. -/
inductive StandsFor : Bool → List α → Option (Component α) → Prop
  | empty {leading : Bool} : StandsFor leading [] none
  | here : StandsFor true [dot] (some .here)
  | skipped : StandsFor false [dot] none
  | up {leading : Bool} : StandsFor leading [dot, dot] (some .up)
  | name {leading : Bool} {segment : List α} (hempty : segment ≠ []) (hdot : segment ≠ [dot])
      (hup : segment ≠ [dot, dot]) : StandsFor leading segment (some (.normal segment))

theorem standsFor_component? (leading : Bool) (segment : List α) :
    StandsFor leading segment (component? leading segment) := by
  rw [component?]
  by_cases hempty : segment = []
  · rw [if_pos hempty, hempty]
    exact .empty
  by_cases hdot : segment = [dot]
  · rw [if_neg hempty, if_pos hdot, hdot]
    cases leading with
    | false => exact .skipped
    | true => exact .here
  by_cases hup : segment = [dot, dot]
  · rw [if_neg hempty, if_neg hdot, if_pos hup, hup]
    exact .up
  · rw [if_neg hempty, if_neg hdot, if_neg hup]
    exact .name hempty hdot hup

theorem component?_eq_normal {leading : Bool} {segment name : List α}
    (h : component? leading segment = some (.normal name)) : segment = name := by
  have hstands := standsFor_component? leading segment
  rw [h] at hstands
  cases hstands with
  | name => rfl

theorem mem_markedSegments {p : Path α} {segment : List α} {c : Option (Component α)}
    (h : (segment, c) ∈ p.markedSegments) :
    segment ∈ p.segments ∧ ∃ leading, c = component? leading segment := by
  rw [markedSegments] at h
  split at h
  · cases h
  · next first rest hsegments =>
    rw [hsegments]
    rcases List.mem_cons.mp h with heq | h
    · cases heq
      exact ⟨List.mem_cons_self, _, rfl⟩
    · obtain ⟨s, hs, heq⟩ := List.mem_map.mp h
      cases heq
      exact ⟨List.mem_cons_of_mem _ hs, _, rfl⟩

theorem segment_of_mem_components {p : Path α} {name : List α} (h : .normal name ∈ p.components) :
    name ∈ p.segments ∧ ∃ leading, component? leading name = some (.normal name) := by
  rw [components, List.mem_append, List.mem_filterMap] at h
  rcases h with hroot | ⟨⟨segment, c⟩, hmarked, hc⟩
  · split at hroot <;> simp at hroot
  · obtain ⟨hsegment, leading, rfl⟩ := mem_markedSegments hmarked
    obtain rfl := component?_eq_normal hc
    exact ⟨hsegment, leading, hc⟩

theorem segment_of_fileName? {p : Path α} {name : List α} (h : p.fileName? = some name) :
    name ∈ p.segments ∧ ∃ leading, component? leading name = some (.normal name) := by
  rw [fileName?] at h
  split at h
  · next last hlast =>
    cases h
    exact segment_of_mem_components (List.mem_of_getLast? hlast)
  · cases h

theorem subset_of_splitExtension (name : List α) : (splitExtension name).1 ⊆ name := by
  rw [splitExtension]
  split
  · exact List.Subset.refl _
  · intro c hc
    have hdropped := List.dropLast_subset _ hc
    rw [List.mem_reverse] at hdropped
    exact List.mem_reverse.mp ((List.dropWhile_sublist _).subset hdropped)

theorem splitExtension_ne_nil {name : List α} (h : name ≠ []) : (splitExtension name).1 ≠ [] := by
  rw [splitExtension]
  split
  · exact h
  · next hstem => exact hstem

theorem splitExtension_of_not_mem {name : List α} (h : dot ∉ name) :
    splitExtension name = (name, none) := by
  have hdotless : ∀ c ∈ name.reverse, (c != dot) = true := fun c hc ↦
    bne_iff_ne.mpr fun heq ↦ h (heq ▸ List.mem_reverse.mp hc)
  rw [splitExtension, List.dropWhile_eq_nil_iff.mpr hdotless]
  rfl

/-- A name is cut at its last dot, unless nothing is before that. -/
theorem splitExtension_append_dot (stem : List α) {extension : List α} (h : dot ∉ extension) :
    splitExtension (stem ++ dot :: extension)
      = if stem = [] then (stem ++ dot :: extension, none) else (stem, some extension) := by
  have hreverse : (stem ++ dot :: extension).reverse
      = extension.reverse ++ dot :: stem.reverse := by simp
  have hdotless : ∀ c ∈ extension.reverse, (c != dot) = true := fun c hc ↦
    bne_iff_ne.mpr fun heq ↦ h (heq ▸ List.mem_reverse.mp hc)
  rw [splitExtension, hreverse, List.takeWhile_append_of_pos hdotless,
    List.dropWhile_append_of_pos hdotless, List.takeWhile_cons_of_neg (by simp),
    List.dropWhile_cons_of_neg (by simp), List.append_nil, List.reverse_reverse,
    List.reverse_cons, List.reverse_reverse, List.dropLast_concat]
  cases stem <;> rfl

theorem splitExtension_append {stem extension : List α} (hstem : stem ≠ [])
    (hextension : dot ∉ extension) :
    splitExtension (stem ++ dot :: extension) = (stem, some extension) := by
  rw [splitExtension_append_dot stem hextension, if_neg hstem]

theorem stem?_spec {p : Path α} {stem : List α} (h : p.stem? = some stem) :
    stem ≠ [] ∧ slash ∉ stem := by
  rw [stem?, Option.map_eq_some_iff] at h
  obtain ⟨name, hname, rfl⟩ := h
  obtain ⟨hsegment, leading, hcounts⟩ := segment_of_fileName? hname
  have hslash : slash ∉ name := Text.not_mem_of_mem_splitAll hsegment
  have hempty : name ≠ [] := by
    rintro rfl
    rw [component?, if_pos rfl] at hcounts
    cases hcounts
  exact ⟨splitExtension_ne_nil hempty, fun hmem ↦ hslash (subset_of_splitExtension name hmem)⟩

/-- A segment that is no component does not count for where a path leads. -/
theorem component?_eq_none {leading : Bool} {segment : List α}
    (h : component? leading segment = none) : segment = [] ∨ segment = [dot] := by
  have hstands := standsFor_component? leading segment
  rw [h] at hstands
  cases hstands with
  | empty => exact .inl rfl
  | skipped => exact .inr rfl

theorem eq_dot_of_parent? {p : Path α} (h : p.parent? = none) : ∀ name ∈ p.names, name = [dot] := by
  have hmarked : p.markedSegments.reverse.dropWhile (·.2.isNone) = [] := by
    rw [parent?] at h
    split at h
    · assumption
    · cases h
  intro name hname
  obtain ⟨hsegment, hne⟩ := List.mem_filter.mp hname
  rw [← map_fst_markedSegments] at hsegment
  obtain ⟨⟨segment, c⟩, hmem, rfl⟩ := List.mem_map.mp hsegment
  obtain ⟨-, leading, rfl⟩ := mem_markedSegments hmem
  have hnone := List.dropWhile_eq_nil_iff.mp hmarked _ (List.mem_reverse.mpr hmem)
  exact (component?_eq_none (Option.isNone_iff_eq_none.mp hnone)).resolve_left (by simpa using hne)

/-! ## The components of a path -/

/-- The components that segments stand for, the first one of a path among them. -/
def componentsFrom (leading : Bool) : List (List α) → List (Component α)
  | [] => []
  | first :: rest => (component? leading first).toList ++ rest.filterMap (component? false)

theorem components_eq (p : Path α) :
    p.components = (if p.isAbsolute then [.root] else []) ++
      componentsFrom (!p.isAbsolute) p.segments := by
  rw [components, markedSegments]
  cases p.segments with
  | nil => rfl
  | cons first rest =>
    have hrest : (rest.map fun s ↦ (s, component? false s)).filterMap (·.2)
        = rest.filterMap (component? false) := by
      rw [List.filterMap_map]
      rfl
    dsimp only
    rw [List.filterMap_cons, componentsFrom, hrest]
    cases component? (!p.isAbsolute) first <;> rfl

theorem componentsFrom_append {leading : Bool} {segments others : List (List α)}
    (h : segments ≠ []) :
    componentsFrom leading (segments ++ others)
      = componentsFrom leading segments ++ others.filterMap (component? false) := by
  cases segments with
  | nil => exact absurd rfl h
  | cons first rest => simp [componentsFrom]

theorem componentsFrom_false (segments : List (List α)) :
    componentsFrom false segments = segments.filterMap (component? false) := by
  cases segments with
  | nil => rfl
  | cons first rest =>
    rw [componentsFrom, List.filterMap_cons]
    cases component? false first <;> rfl

theorem component?_ne_root {leading : Bool} {segment : List α} :
    component? leading segment ≠ some .root := by
  intro h
  have hstands := standsFor_component? leading segment
  rw [h] at hstands
  cases hstands

theorem root_mem_components {p : Path α} : .root ∈ p.components ↔ p.isAbsolute = true := by
  have hnone : ∀ (leading : Bool) (segments : List (List α)),
      .root ∉ componentsFrom leading segments := by
    intro leading segments hroot
    cases segments with
    | nil => cases hroot
    | cons first rest =>
      rw [componentsFrom, List.mem_append, Option.mem_toList, List.mem_filterMap] at hroot
      rcases hroot with hfirst | ⟨segment, -, hrest⟩
      · exact component?_ne_root hfirst
      · exact component?_ne_root hrest
  rw [components_eq]
  by_cases h : p.isAbsolute = true
  · simp [h]
  · simp [h, hnone]

theorem component?_false {segment : List α} {c : Component α}
    (h : component? false segment = some c) : c = .up ∨ ∃ name, c = .normal name := by
  have hstands := standsFor_component? false segment
  rw [h] at hstands
  cases hstands with
  | up => exact .inl rfl
  | name => exact .inr ⟨segment, rfl⟩

theorem mem_tail_components {p : Path α} {c : Component α} (h : c ∈ p.components.tail) :
    c = .up ∨ ∃ name, c = .normal name := by
  have hmem : ∀ segments : List (List α), c ∈ segments.filterMap (component? false) →
      c = .up ∨ ∃ name, c = .normal name := by
    intro segments hc
    obtain ⟨segment, -, hsegment⟩ := List.mem_filterMap.mp hc
    exact component?_false hsegment
  rw [components_eq] at h
  by_cases habsolute : p.isAbsolute = true
  · rw [if_pos habsolute, habsolute, Bool.not_true, componentsFrom_false] at h
    exact hmem _ h
  · rw [if_neg habsolute, List.nil_append] at h
    cases hsegments : p.segments with
    | nil =>
      rw [hsegments] at h
      cases h
    | cons first rest =>
      rw [hsegments, componentsFrom] at h
      cases hfirst : component? (!p.isAbsolute) first with
      | none =>
        rw [hfirst] at h
        exact hmem rest (List.mem_of_mem_tail h)
      | some d =>
        rw [hfirst] at h
        exact hmem rest h

/-- What a component is spelled with does not depend on where it stands. -/
theorem name?_component? (leading : Bool) (segment : List α) :
    (component? leading segment).bind Component.name? =
      if segment = [] ∨ segment = [dot] then none else some segment := by
  have hstands := standsFor_component? leading segment
  generalize component? leading segment = c at hstands ⊢
  cases hstands with
  | empty => rw [if_pos (.inl rfl), Option.bind_none]
  | here => rw [if_pos (.inr rfl), Option.bind_some, Component.name?]
  | skipped => rw [if_pos (.inr rfl), Option.bind_none]
  | up => rw [if_neg (by simp), Option.bind_some, Component.name?]
  | name hempty hdot =>
    rw [if_neg (not_or.mpr ⟨hempty, hdot⟩), Option.bind_some, Component.name?]

/-- The components are spelled with the names of the path, but for any `.` among them. -/
theorem filterMap_name?_components (p : Path α) :
    p.components.filterMap Component.name? = p.names.filter (· ≠ [dot]) := by
  have hrest : ∀ segments : List (List α),
      (segments.filterMap (component? false)).filterMap Component.name?
        = segments.filterMap fun s ↦ if s = [] ∨ s = [dot] then none else some s := by
    intro segments
    simp only [List.filterMap_filterMap, name?_component?]
  have hsegments : ∀ leading (segments : List (List α)),
      (componentsFrom leading segments).filterMap Component.name?
        = segments.filterMap fun s ↦ if s = [] ∨ s = [dot] then none else some s := by
    intro leading segments
    cases segments with
    | nil => rfl
    | cons first rest =>
      rw [componentsFrom, List.filterMap_append, hrest, List.filterMap_cons,
        ← name?_component? leading first]
      cases component? leading first with
      | none => rfl
      | some c => cases h : c.name? <;> simp [h]
  have hnames : p.segments.filterMap (fun s ↦ if s = [] ∨ s = [dot] then none else some s)
      = p.names.filter (· ≠ [dot]) := by
    rw [names, List.filter_filter]
    induction p.segments with
    | nil => rfl
    | cons first rest ih =>
      rw [List.filterMap_cons, List.filter_cons, ih]
      by_cases h : first = [] ∨ first = [dot]
      · rcases h with rfl | rfl <;> simp
      · rw [if_neg h]
        rw [not_or] at h
        simp [h.1, h.2]
  rw [components_eq, List.filterMap_append, hsegments, hnames]
  split <;> rfl

theorem components_slash (rest : List α) :
    (⟨slash :: rest⟩ : Path α).components
      = .root :: (Text.splitAll slash rest).filterMap (component? false) := by
  have habsolute : (⟨slash :: rest⟩ : Path α).isAbsolute = true := by simp [isAbsolute]
  rw [components_eq, habsolute, segments, body, if_pos habsolute, List.tail_cons, if_pos rfl,
    Bool.not_true, componentsFrom_false, List.singleton_append]

theorem components_of_spelling {p : Path α} {s rest : List α} (hs : s ≠ [])
    (hp : p.spelling = s ++ slash :: rest) :
    p.components
      = (⟨s⟩ : Path α).components ++ (Text.splitAll slash rest).filterMap (component? false) := by
  obtain ⟨c, t, rfl⟩ := List.exists_cons_of_ne_nil hs
  have habsolute : p.isAbsolute = (⟨c :: t⟩ : Path α).isAbsolute := by
    rw [isAbsolute, isAbsolute, hp]
    rfl
  have hsegments : p.segments = (⟨c :: t⟩ : Path α).segments ++ Text.splitAll slash rest := by
    rw [segments, segments, body, body, habsolute, hp]
    split
    · exact Text.splitAll_append_cons slash t rest
    · exact Text.splitAll_append_cons slash (c :: t) rest
  have hne : (⟨c :: t⟩ : Path α).segments ≠ [] := Text.splitAll_ne_nil _ _
  rw [components_eq, components_eq, habsolute, hsegments, componentsFrom_append hne,
    List.append_assoc]

/-- Whatever is appended to a path adds the components of its own segments. -/
theorem components_join {base p : Path α} (hbase : base.spelling ≠ [])
    (h : p.isAbsolute = false) :
    (base.join p).components = base.components ++ p.segments.filterMap (component? false) := by
  have hsegments : p.segments = Text.splitAll slash p.spelling := by
    rw [segments, body, if_neg (by simp [h])]
  have hempty : (Text.splitAll slash ([] : List α)).filterMap (component? false) = [] := by
    simp [Text.splitAll, component?]
  rw [join_eq_opened h, opened, hsegments]
  by_cases hslash : base.spelling.getLast? = some slash
  · rw [if_pos (.inr hslash)]
    obtain ⟨s, hs⟩ := List.getLast?_eq_some_iff.mp hslash
    cases s with
    | nil =>
      -- what is appended to the root alone is made absolute by it
      obtain rfl : base = ⟨[slash]⟩ := congrArg Path.mk hs
      rw [List.singleton_append, components_slash, components_slash, hempty, List.singleton_append]
    | cons c t =>
      have hopened : base.spelling ++ p.spelling = (c :: t) ++ slash :: p.spelling := by
        rw [hs, List.append_assoc, List.singleton_append]
      have hbare := components_of_spelling (List.cons_ne_nil c t) hs
      rw [hempty, List.append_nil] at hbare
      rw [components_of_spelling (List.cons_ne_nil c t) hopened, hbare]
  · rw [if_neg (by simp [hbase, hslash])]
    have hopened :
        (base.spelling ++ [slash]) ++ p.spelling = base.spelling ++ slash :: p.spelling := by
      rw [List.append_assoc, List.singleton_append]
    exact components_of_spelling hbase hopened

/-- A path whose segments are all names adds these names, whatever it is appended to. -/
theorem components_join_of_normal {base p : Path α} (h : p.isAbsolute = false)
    (hnormal : ∀ segment ∈ p.segments, ∀ leading,
      component? leading segment = some (.normal segment)) :
    (base.join p).components = base.components ++ p.segments.map .normal := by
  have hmap : ∀ segments ⊆ p.segments,
      segments.filterMap (component? false) = segments.map .normal := by
    intro segments hsubset
    exact List.filterMap_eq_map_iff_forall_eq_some.mpr fun segment hsegment ↦
      hnormal segment (hsubset hsegment) false
  by_cases hbase : base.spelling = []
  · have hjoin : base.join p = p := by
      rw [join_eq_opened h, opened, if_pos (.inl hbase), hbase, List.nil_append]
    have hempty : base.components = [] := by
      obtain rfl : base = ⟨[]⟩ := congrArg Path.mk hbase
      simp [components_eq, isAbsolute, segments, body, Text.splitAll, componentsFrom, component?]
    rw [hjoin, hempty, components_eq, h, if_neg Bool.false_ne_true]
    cases hsegments : p.segments with
    | nil => rfl
    | cons first rest =>
      rw [hsegments] at hmap hnormal
      rw [componentsFrom, hnormal first List.mem_cons_self, hmap rest (List.subset_cons_self _ _)]
      rfl
  · rw [components_join hbase h, hmap _ (List.Subset.refl _)]

end CompiledViews.Path
