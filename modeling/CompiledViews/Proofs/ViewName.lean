import CompiledViews.Proofs.Disk.Growth
import CompiledViews.ViewName

/-!
# Where views are

A view name leads straight down from a directory: no segment of it goes up or stays, so the
locations on its way are all below the directory, the file of a view is nowhere else than at the
directory's location followed by the segments of the name, and different views have different
files. The same holds of a directory of output files.
-/

namespace CompiledViews

namespace ViewName

/-- The names that lead from a directory to the file of a view. -/
def steps (name : Text) : List Text := Text.splitAll '/' (name ++ '.' :: artifactExtension)

def relativePath (name : Text) : Path := ⟨name ++ '.' :: artifactExtension⟩

variable {directory p q : Path} {name other : Text} {here : Location}

theorem path?_eq_some :
    path? directory name = some p
      ↔ isValid name = true ∧ p = directory.join (relativePath name) := by
  rw [path?, relativePath?]
  split
  · next h => simp [h, eq_comm, relativePath]
  · next h => simp [h]

private theorem artifactExtension_eq : artifactExtension = ['j', 'i', 'n', 'j', 'a'] := by decide

theorem isStep_of_isSegment {segment : Text} (h : isSegment segment = true) :
    segment ≠ [] ∧ Disk.IsStep segment := by
  simp only [isSegment, Bool.and_eq_true, bne_iff_ne] at h
  exact ⟨h.1.1.1, h.1.1.2, h.1.2⟩

theorem isStep_append_extension (t : Text) :
    t ++ '.' :: artifactExtension ≠ [] ∧ Disk.IsStep (t ++ '.' :: artifactExtension) := by
  have hlength : 6 ≤ (t ++ '.' :: artifactExtension).length := by
    simp [artifactExtension_eq]
  refine ⟨?_, ?_, ?_⟩ <;>
  · intro h
    rw [h] at hlength
    simp at hlength

theorem isStep_of_mem_steps (h : isValid name = true) {step : Text} (hstep : step ∈ steps name) :
    step ≠ [] ∧ Disk.IsStep step := by
  obtain ⟨before, last, hname, hsteps⟩ := Text.splitAll_append '/' name
  rw [steps, hsteps _ (by simp [artifactExtension_eq])] at hstep
  rw [isValid, List.all_eq_true, hname] at h
  rcases List.mem_append.mp hstep with hbefore | hlast
  · exact isStep_of_isSegment (h step (List.mem_append_left _ hbefore))
  · rw [List.mem_singleton.mp hlast]
    exact isStep_append_extension last

theorem isValid_iff : isValid name = true ↔ ∀ segment ∈ Text.splitAll '/' name,
    segment ≠ [] ∧ segment ≠ ['.'] ∧ segment ≠ ['.', '.'] ∧ '\\' ∉ segment := by
  simp [isValid, isSegment, and_assoc]

theorem steps_ne_nil (name : Text) : steps name ≠ [] := Text.splitAll_ne_nil _ _

theorem steps_eq {before : List Text} {last : Text}
    (h : Text.splitAll '/' name = before ++ [last]) :
    steps name = before ++ [last ++ '.' :: artifactExtension] := by
  obtain ⟨before', last', hname, hsteps⟩ := Text.splitAll_append '/' name
  rw [steps, hsteps _ (by simp [artifactExtension_eq])]
  obtain ⟨rfl, hlast⟩ := List.append_inj' (hname.symm.trans h) rfl
  rw [List.singleton_inj.mp hlast]

theorem steps_injective (h : steps name = steps other) : name = other :=
  List.append_cancel_right (Text.splitAll_injective '/' h)

theorem names_relativePath (h : isValid name = true) : (relativePath name).names = steps name := by
  rw [Path.names_eq]
  exact List.filter_eq_self.mpr fun step hstep ↦ by simpa using (isStep_of_mem_steps h hstep).1

theorem isAbsolute_relativePath (h : isValid name = true) :
    (relativePath name).isAbsolute = false := by
  cases name with
  | nil => rfl
  | cons c rest =>
    have hc : c ≠ '/' := by
      rintro rfl
      rw [isValid, Text.splitAll_cons_self] at h
      simp [isSegment] at h
    simp [relativePath, Path.isAbsolute, PathSymbol.slash, hc]

theorem segments_relativePath (h : isValid name = true) :
    (relativePath name).segments = steps name := by
  rw [Path.segments, Path.body, if_neg (by simp [isAbsolute_relativePath h])]
  rfl

/-! ## Locations -/

theorem goal_of_path? (h : path? directory name = some p) :
    p.goal here = directory.goal here ++ steps name := by
  obtain ⟨hvalid, rfl⟩ := path?_eq_some.mp h
  rw [Path.goal_join (isAbsolute_relativePath hvalid), names_relativePath hvalid]
  exact Disk.reached_of_isStep (fun step hstep ↦ (isStep_of_mem_steps hvalid hstep).2) _

theorem goal_injective (h : path? directory name = some p) (h' : path? directory other = some q)
    (hgoal : p.goal here = q.goal here) : name = other := by
  rw [goal_of_path? h, goal_of_path? h'] at hgoal
  exact steps_injective (List.append_cancel_left hgoal)

/-- A location that is entered on the way to a view is on the way to the directory or below it. -/
theorem mem_entered_of_path? (h : path? directory name = some p) {l : Location}
    (hl : l ∈ Disk.entered (p.start here) p.names) :
    l ∈ Disk.entered (directory.start here) directory.names ∨ directory.goal here <+: l := by
  obtain ⟨hvalid, rfl⟩ := path?_eq_some.mp h
  rw [Path.entered_join (isAbsolute_relativePath hvalid), names_relativePath hvalid] at hl
  rcases List.mem_append.mp hl with hl | hl
  · exact .inl hl
  · exact .inr <|
      Disk.prefix_of_mem_entered (fun step hstep ↦ (isStep_of_mem_steps hvalid hstep).2) hl

theorem mem_way_of_path? (h : path? directory name = some p) {l : Location} :
    l ∈ p.way here ↔ l ∈ Disk.entered (directory.start here) directory.names ∨
      l ∈ Disk.entered (directory.goal here) (steps name).dropLast := by
  obtain ⟨hvalid, rfl⟩ := path?_eq_some.mp h
  rw [Path.way_join (isAbsolute_relativePath hvalid)]
  · rw [names_relativePath hvalid, List.mem_append]
  · rw [names_relativePath hvalid]
    exact steps_ne_nil name

end ViewName

end CompiledViews
