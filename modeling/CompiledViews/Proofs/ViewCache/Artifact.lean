import CompiledViews.Proofs.Disk.Sibling
import CompiledViews.Proofs.Path.Components
import CompiledViews.Proofs.ViewName
import CompiledViews.Settings.Basic
import CompiledViews.ViewCache.Basic

/-!
# Where artifacts are

A view id is a single name, so artifacts are right in the directory of the view cache, each view id
has its own, and the artifact of a view id is the source of the view with the render name.
-/

namespace CompiledViews

/-! ## View ids -/

namespace Path

open PathSymbol

theorem not_mem_of_viewId? {p : Path} {viewId : Text} (h : p.viewId? = some viewId) :
    '/' ∉ viewId := (stem?_spec h).2

theorem isStep_of_component? {leading : Bool} {segment name : Text}
    (h : component? leading segment = some (.normal name)) : name ≠ [] ∧ Disk.IsStep name := by
  have hstands := standsFor_component? leading segment
  rw [h] at hstands
  cases hstands with
  | name hempty hdot hup => exact ⟨hempty, hdot, hup⟩

theorem names_of_fileName? {p : Path} {name : Text} (h : p.fileName? = some name) :
    name ≠ [] ∧ Disk.IsStep name ∧
      ∃ before after, p.names = before ++ name :: after ∧ ∀ other ∈ after, other = ['.'] := by
  rw [fileName?] at h
  split at h
  · next hlast =>
    cases h
    obtain ⟨init, hinit⟩ := List.getLast?_eq_some_iff.mp hlast
    obtain ⟨front, hcomponents⟩ : ∃ front,
        p.markedSegments.filterMap (·.2) = front ++ [.normal name] := by
      rw [components] at hinit
      rcases List.append_eq_append_iff.mp hinit with ⟨front, -, hfront⟩ | ⟨back, hroot, hback⟩
      · exact ⟨front, hfront⟩
      · -- the root is no name
        cases back with
        | nil => exact ⟨[], hback.symm⟩
        | cons c back =>
          rw [List.cons_append, List.cons.injEq] at hback
          obtain ⟨rfl, -⟩ := hback
          split at hroot
          · have hmem : Component.normal name ∈ init ++ Component.normal name :: back := by simp
            rw [← hroot] at hmem
            simp at hmem
          · simp at hroot
    obtain ⟨first, others, hmarked, -, hothers⟩ := List.filterMap_eq_append_iff.mp hcomponents
    obtain ⟨dots, ⟨segment, c⟩, after, rfl, hdots, hc, hafter⟩ :=
      List.filterMap_eq_cons_iff.mp hothers
    have hmem : ∀ entry ∈ p.markedSegments, ∃ leading, entry.2 = component? leading entry.1 :=
      fun entry hentry ↦ (mem_markedSegments hentry).2
    obtain ⟨leading, hleading⟩ := hmem (segment, c) (by simp [hmarked])
    have hcomponent : component? leading segment = some (.normal name) := hleading.symm.trans hc
    obtain ⟨hempty, hstep⟩ := isStep_of_component? hcomponent
    obtain rfl := component?_eq_normal hcomponent
    refine ⟨hempty, hstep, ?_⟩
    refine ⟨((first ++ dots).map (·.1)).filter (· ≠ []), (after.map (·.1)).filter (· ≠ []), ?_, ?_⟩
    · rw [names, ← map_fst_markedSegments, hmarked]
      simp [hempty]
    · -- a segment behind the name that is no component is empty or a dot
      intro other hother
      obtain ⟨hmap, hne⟩ := List.mem_filter.mp hother
      obtain ⟨entry, hentry, rfl⟩ := List.mem_map.mp hmap
      obtain ⟨leading', hentry'⟩ := hmem entry (by simp [hmarked, hentry])
      have hnone : component? leading' entry.1 = none :=
        hentry'.symm.trans (List.filterMap_eq_nil_iff.mp hafter entry hentry)
      exact (component?_eq_none hnone).resolve_left (by simpa using hne)
  · cases h

theorem goal_of_fileName? {p : Path} {name : Text} (h : p.fileName? = some name)
    (here : Location) : name ≠ [] ∧ ∃ directory, p.goal here = directory ++ [name] := by
  obtain ⟨hempty, hstep, before, after, hnames, hafter⟩ := names_of_fileName? h
  refine ⟨hempty, Disk.reached (p.start here) before, ?_⟩
  rw [goal, hnames, Disk.reached_append, Disk.reached_step hstep]
  generalize Disk.reached (p.start here) before ++ [name] = location
  clear hnames
  induction after with
  | nil => rfl
  | cons other after ih =>
    rw [hafter other List.mem_cons_self, Disk.reached_here]
    exact ih fun n hn ↦ hafter n (List.mem_cons_of_mem _ hn)

theorem component?_of_isStep {leading : Bool} {name : Text} (hempty : name ≠ [])
    (hstep : Disk.IsStep name) : component? leading name = some (.normal name) := by
  have hdot : name ≠ [dot] := hstep.1
  have hup : name ≠ [dot, dot] := hstep.2
  rw [component?, if_neg hempty, if_neg hdot, if_neg hup]

theorem components_join_of_isName (p : Path) {x : Text} (hx : x.IsName) :
    (p.join ⟨x⟩).components = p.components ++ [.normal x] := by
  rw [components_join_of_normal hx.isAbsolute, hx.segments, List.map_singleton]
  intro segment hsegment leading
  rw [hx.segments, List.mem_singleton] at hsegment
  rw [hsegment]
  exact component?_of_isStep hx.nonempty hx.step

theorem fileName?_of_names {p : Path} {before : List Text} {name : Text}
    (h : p.names = before ++ [name]) (hstep : Disk.IsStep name) : p.fileName? = some name := by
  have hempty : name ≠ [] := by
    have hmem : name ∈ p.names := by simp [h]
    simpa using (List.mem_filter.mp hmem).2
  rw [names, ← map_fst_markedSegments, List.filter_map] at h
  obtain ⟨_, _, hfiltered, -, hlast⟩ := List.map_eq_append_iff.mp h
  obtain ⟨entry, _, rfl, hentry, hnil⟩ := List.map_eq_cons_iff.mp hlast
  obtain rfl := List.map_eq_nil_iff.mp hnil
  obtain ⟨first, others, hmarked, -, hothers⟩ := List.filter_eq_append_iff.mp hfiltered
  obtain ⟨second, after, rfl, -, -, hafter⟩ := List.filter_eq_cons_iff.mp hothers
  have hmem : ∀ entry ∈ p.markedSegments, ∃ leading, entry.2 = component? leading entry.1 :=
    fun entry hentry ↦ (mem_markedSegments hentry).2
  have hname : entry.2 = some (.normal name) := by
    obtain ⟨leading, hleading⟩ := hmem entry (by simp [hmarked])
    rw [hleading, hentry, component?_of_isStep hempty hstep]
  -- what comes behind the name are empty segments
  have hnothing : after.filterMap (·.2) = [] := by
    rw [List.filterMap_eq_nil_iff]
    intro other hother
    obtain ⟨leading, hleading⟩ := hmem other (by simp [hmarked, hother])
    have hsegment : other.1 = [] := by
      simpa using List.filter_eq_nil_iff.mp hafter other hother
    rw [hleading, hsegment, component?, if_pos rfl]
  rw [fileName?, components, hmarked, List.filterMap_append, List.filterMap_append,
    List.filterMap_cons_some hname, hnothing]
  simp

theorem goal_of_viewId? {p : Path} {viewId : Text} (h : p.viewId? = some viewId)
    (here : Location) : viewId ≠ [] ∧
      ∃ directory name, p.goal here = directory ++ [name] ∧ (splitExtension name).1 = viewId := by
  rw [viewId?, stem?, Option.map_eq_some_iff] at h
  obtain ⟨name, hname, rfl⟩ := h
  obtain ⟨hempty, directory, hgoal⟩ := goal_of_fileName? hname here
  exact ⟨splitExtension_ne_nil hempty, directory, name, hgoal, rfl⟩

theorem viewId?_of_destination {p : Path} {disk : Disk} {directory : Location} {name : Text}
    {slashed : Bool} (h : disk.destination p = .ok (.entry directory name slashed)) :
    ∃ viewId, p.viewId? = some viewId := by
  obtain ⟨hstep, before, hnames⟩ := Disk.names_of_destination h
  rw [viewId?, stem?, fileName?_of_names hnames hstep]
  exact ⟨_, rfl⟩

theorem viewId_unique {p q : Path} {viewId other : Text} {here : Location}
    (hp : p.viewId? = some viewId) (hq : q.viewId? = some other) (h : p.goal here = q.goal here) :
    viewId = other := by
  obtain ⟨-, directory, name, hgoal, rfl⟩ := goal_of_viewId? hp here
  obtain ⟨-, directory', name', hgoal', rfl⟩ := goal_of_viewId? hq here
  rw [hgoal, hgoal'] at h
  have hname : name = name' := List.singleton_inj.mp (List.append_inj_right' h rfl)
  rw [hname]

theorem ne_up_of_not_contains {p : Path} (h : p.components.contains .up = false) {name : Text}
    (hname : name ∈ p.names) : name ≠ ['.', '.'] := by
  rintro rfl
  have hsegment := (List.mem_filter.mp hname).1
  rw [← map_fst_markedSegments] at hsegment
  obtain ⟨⟨segment, c⟩, hmarked, rfl⟩ := List.mem_map.mp hsegment
  obtain ⟨-, leading, rfl⟩ := mem_markedSegments hmarked
  have hmem : Component.up ∈ p.components := by
    rw [components, List.mem_append, List.mem_filterMap]
    exact .inr ⟨_, hmarked, by simp [component?, PathSymbol.dot]⟩
  rw [← List.contains_iff_mem, h] at hmem
  cases hmem

end Path

/-! ## The view cache -/

namespace Directories

variable (directories : Directories) {here : Location}

theorem goal_viewCache :
    directories.viewCache.goal here = directories.views.goal here ++ [cacheNamespace] := by
  rw [viewCache, Path.goal_join (by decide)]
  rfl

theorem entered_viewCache :
    Disk.entered (directories.viewCache.start here) directories.viewCache.names
      = Disk.entered (directories.views.start here) directories.views.names ++
        [directories.viewCache.goal here] := by
  rw [goal_viewCache, viewCache, Path.entered_join (by decide)]
  rfl

end Directories

namespace ViewCache

variable (cache : ViewCache) {viewId other : Text} {here : Location}

def artifactName (viewId : Text) : Text := viewId ++ '.' :: artifactExtension

theorem splitExtension_artifactName (h : viewId ≠ []) :
    Path.splitExtension (artifactName viewId) = (viewId, some artifactExtension) :=
  Path.splitExtension_append h (by decide)

theorem artifactName_injective (h : artifactName viewId = artifactName other) : viewId = other :=
  List.append_cancel_right h

theorem isName_artifactName (h : '/' ∉ viewId) : (artifactName viewId).IsName where
  nonempty := (ViewName.isStep_append_extension viewId).1
  slashless := by
    rw [artifactName, List.mem_append, not_or]
    exact ⟨h, by decide⟩
  step := (ViewName.isStep_append_extension viewId).2

theorem goal_artifactPath (h : '/' ∉ viewId) :
    (cache.artifactPath viewId).goal here
      = cache.directory.goal here ++ [artifactName viewId] := by
  have hname := isName_artifactName h
  rw [artifactPath, ← artifactName, Path.goal_join hname.isAbsolute, hname.names,
    Disk.reached_step hname.step, Disk.reached_nil]

theorem way_artifactPath (h : '/' ∉ viewId) :
    (cache.artifactPath viewId).way here
      = Disk.entered (cache.directory.start here) cache.directory.names := by
  have hname := isName_artifactName h
  rw [artifactPath, ← artifactName, Path.way_join hname.isAbsolute (by simp [hname.names]),
    hname.names]
  simp

theorem unslashed_artifactPath (h : '/' ∉ viewId) :
    (cache.artifactPath viewId).spelling.getLast? ≠ some '/' :=
  cache.directory.unslashed_join (isName_artifactName h)

end ViewCache

namespace Directories

variable {directories : Directories} {viewId : Text} {p : Path} {here : Location}

theorem steps_renderName (hslash : '/' ∉ viewId) :
    ViewName.steps (renderName viewId) = [cacheNamespace, ViewCache.artifactName viewId] := by
  have hsteps : ViewName.steps (renderName viewId)
      = Text.splitAll '/' (cacheNamespace ++ '/' :: ViewCache.artifactName viewId) := by
    simp [ViewName.steps, renderName, ViewCache.artifactName]
  rw [hsteps, Text.splitAll_append_cons,
    Text.splitAll_of_not_mem (ViewCache.isName_artifactName hslash).slashless,
    Text.splitAll_of_not_mem (by decide)]
  rfl

/-- The engine finds an artifact where the view cache has put it. -/
theorem goal_of_renderName (hslash : '/' ∉ viewId)
    (h : ViewName.path? directories.views (renderName viewId) = some p) :
    p.goal here = directories.viewCache.goal here ++ [ViewCache.artifactName viewId] := by
  rw [ViewName.goal_of_path? h, goal_viewCache, steps_renderName hslash, List.append_assoc]
  rfl

theorem mem_trail_of_renderName (hslash : '/' ∉ viewId)
    (h : ViewName.path? directories.views (renderName viewId) = some p) {l : Location}
    (hl : l ∈ p.trail here) :
    l = directories.viewCache.goal here ++ [ViewCache.artifactName viewId] ∨
      l ∈ Disk.entered (directories.viewCache.start here) directories.viewCache.names := by
  rcases Path.mem_way_or_eq_goal hl with hway | rfl
  · rw [ViewName.mem_way_of_path? h, steps_renderName hslash] at hway
    rw [entered_viewCache, List.mem_append, goal_viewCache]
    exact .inr (hway.imp_right fun hlast ↦ hlast)
  · exact .inl (goal_of_renderName hslash h)

end Directories

end CompiledViews
