import CompiledViews.Proofs.Path.Encoding
import CompiledViews.Proofs.ViewCache.Address
import CompiledViews.Proofs.ViewCache.Following

/-!
# Artifacts are named after view ids

With its extension every view id is an ordinary name: it is not empty and has no slash, and it is
longer than `.` and `..` even where the view id itself is one of these. So the artifact of a view is
an entry of the directory of the view cache. Leaving out the extension gives the view id again,
however many dots that has and wherever they are; hence no two view ids share an artifact.

This holds of the view id of any path, be it a text or bytes that are none.
-/

namespace CompiledViews.ViewCache

open Disk

variable {cache : ViewCache} {source : Path} {viewId other : Text} {disk disk' : Disk}
  {here : Location}

/-! ## The path of an artifact -/

/-- The name of an artifact's file is one component more than the directory has. -/
theorem components_artifactPath (h : '/' ∉ viewId) :
    (cache.artifactPath viewId).components
      = cache.directory.components ++ [.normal (artifactName viewId)] := by
  rw [artifactPath, ← artifactName]
  exact cache.directory.components_join_of_isName (isName_artifactName h)

theorem viewId?_artifactPath (hempty : viewId ≠ []) (hslash : '/' ∉ viewId) :
    (cache.artifactPath viewId).viewId? = some viewId := by
  have hfile : (cache.artifactPath viewId).fileName? = some (artifactName viewId) := by
    rw [Path.fileName?, components_artifactPath hslash, List.getLast?_concat]
  rw [Path.viewId?, Path.stem?, hfile, Option.map_some, splitExtension_artifactName hempty]

/-- What the name of an artifact says: where it is, and of which view it is. -/
structure Traceable (cache : ViewCache) (viewId : Text) : Prop where
  nonempty : viewId ≠ []
  slashless : '/' ∉ viewId
  components : (cache.artifactPath viewId).components
    = cache.directory.components ++ [.normal (viewId ++ '.' :: artifactExtension)]
  /-- Wherever the directory is, the artifact is an entry of it. -/
  goal : ∀ here, (cache.artifactPath viewId).goal here = cache.artifactLocation viewId here
  viewId? : (cache.artifactPath viewId).viewId? = some viewId
  viewIdOfBytes? : (cache.artifactPath viewId).bytes.viewIdOfBytes? = some viewId

theorem traceable (cache : ViewCache) (h : IsViewId viewId) : Traceable cache viewId where
  nonempty := h.nonempty
  slashless := h.slashless
  components := components_artifactPath h.slashless
  goal _ := goal_artifactPath cache h.slashless
  viewId? := viewId?_artifactPath h.nonempty h.slashless
  viewIdOfBytes? := by
    rw [Path.viewIdOfBytes?_bytes]
    exact viewId?_artifactPath h.nonempty h.slashless

theorem artifactPath_ne (h : IsViewId viewId) (h' : IsViewId other) (hne : viewId ≠ other) :
    (cache.artifactPath viewId).isSame (cache.artifactPath other) = false ∧
      ∀ here, cache.artifactLocation viewId here ≠ cache.artifactLocation other here := by
  refine ⟨?_, fun here heq ↦ hne (artifactLocation_injective heq)⟩
  rw [Path.isSame, beq_eq_false_iff_ne, components_artifactPath h.slashless,
    components_artifactPath h'.slashless]
  intro heq
  have hname := List.singleton_inj.mp (List.append_cancel_left heq)
  exact hne (artifactName_injective (Component.normal.inj hname))

/-! ## What is written -/

/-- Whether a location is as it was, or is the artifact of a view, or is the directory of artifacts,
which may get another date. -/
def KeptBut (cache : ViewCache) (viewId : Text) (disk after : Disk) (l : Location) : Prop :=
  after.node? l = disk.node? l ∨ l = cache.artifactLocation viewId disk.here ∨
    l = cache.directory.goal disk.here ∧ disk.HasDirectory l ∧ after.HasDirectory l

theorem keptBut_renewed (content : ByteArray) (modified : Time) (disk : Disk) (l : Location) :
    KeptBut cache viewId disk (cache.renewed viewId content modified disk) l := by
  rcases node?_renewed cache viewId content modified disk l with
    ⟨heq, -⟩ | ⟨heq, hold, hnew⟩ | ⟨-, hsame⟩
  · exact .inr (.inl heq)
  · exact .inr (.inr ⟨heq, hold, hasDirectory_of_node hnew⟩)
  · exact .inl hsame

theorem keptBut_putArtifact (content : ByteArray) (modified : Time) (disk : Disk) (l : Location) :
    KeptBut cache viewId disk (cache.putArtifact viewId content modified disk).2 l := by
  rcases @putArtifact_cases cache viewId content modified disk with
    ⟨error, after, hput, rfl | rfl⟩ | ⟨-, hput⟩
  · rw [hput]
    exact .inl rfl
  · rw [hput]
    exact .inl rfl
  · rw [hput]
    exact keptBut_renewed content modified disk l

theorem keptBut_refresh (cache : ViewCache) (source : Path) (disk : Disk) (l : Location) :
    ((cache.refresh source).run.run disk).2.node? l = disk.node? l ∨
      ∃ viewId, source.viewId? = some viewId ∧
        KeptBut cache viewId disk ((cache.refresh source).run.run disk).2 l := by
  rcases refresh_outcome cache source disk with
    ⟨error, after, hrun, rfl | rfl⟩ | ⟨viewId, content, modified, hview, -, -, hrun⟩
  · rw [hrun]
    exact .inl rfl
  · rw [hrun]
    exact .inl rfl
  · rw [hrun]
    exact .inr ⟨viewId, hview, keptBut_renewed content modified disk l⟩

/-- **Artifacts and view ids.** For the view id of any path, the artifact is an entry of the
directory of the view cache and can be traced back; different view ids have different artifacts. So
a refresh changes that one entry at most, whatever its source; and what it does after it has found
the view id, the bytes and the date of a source has this effect for all view ids. -/
theorem artifactPath_traceable (cache : ViewCache) :
    (∀ viewId, IsViewId viewId → Traceable cache viewId) ∧
    (∀ viewId other, IsViewId viewId → IsViewId other → viewId ≠ other →
      (cache.artifactPath viewId).isSame (cache.artifactPath other) = false ∧
        ∀ here, cache.artifactLocation viewId here ≠ cache.artifactLocation other here) ∧
    (∀ viewId content modified disk l,
      KeptBut cache viewId disk (cache.putArtifact viewId content modified disk).2 l) ∧
    ∀ source disk l, ((cache.refresh source).run.run disk).2.node? l = disk.node? l ∨
      ∃ viewId, source.viewId? = some viewId ∧
        KeptBut cache viewId disk ((cache.refresh source).run.run disk).2 l :=
  ⟨fun _ ↦ traceable cache, fun _ _ ↦ artifactPath_ne,
    fun _ content modified disk l ↦ keptBut_putArtifact content modified disk l,
    keptBut_refresh cache⟩

/-- Names that are all dots: the artifacts of `.` and `..` are two files in the directory. -/
theorem artifactPath_traceable_dots :
    (mirrors.artifactPath ['.']).components
      = [.root, .normal "cache".toList, .normal "..jinja".toList] ∧
    (mirrors.artifactPath ['.', '.']).viewId? = some ['.', '.'] ∧
    (mirrors.artifactPath ['.']).isSame (mirrors.artifactPath ['.', '.']) = false := by
  have hhere : IsViewId ['.'] := .inl ⟨.ofString "/theme/..html", by decide +kernel⟩
  have hup : IsViewId ['.', '.'] := .inr ⟨(Path.ofString "/theme/...html").bytes, by decide +kernel⟩
  obtain ⟨htraceable, hdistinct, -⟩ := artifactPath_traceable mirrors
  exact ⟨(htraceable _ hhere).components.trans (by decide +kernel), (htraceable _ hup).viewId?,
    (hdistinct _ _ hhere hup (by decide)).1⟩

end CompiledViews.ViewCache
