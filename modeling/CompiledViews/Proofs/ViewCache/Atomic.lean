import CompiledViews.Proofs.ViewCache.Following

/-!
# A check does everything or nothing

A check that fails has done nothing to any file, and neither has one that finds the artifact fresh;
a check that refreshes has put the bytes of the source into the artifact and nothing anywhere else.
What is to be done after a refresh is done in the last case only, once, and on a disk that has the
new artifact already.

The reason is that everything that can fail comes before the one change to the tree: a draft has no
name, and giving it one is a single step.
-/

namespace CompiledViews.ViewCache

open Disk

variable {cache : ViewCache} {source : Path} {viewId : Text} {disk disk' : Disk}

theorem keeps_of_refresh_error {error : ViewCacheError}
    (h : (cache.refresh source).run.run disk = (.error error, disk')) (l : Location) :
    disk.Keeps disk' l := by
  rcases refresh_outcome cache source disk with
    ⟨fault, after, hrun, hafter⟩ | ⟨viewId, content, modified, -, -, -, hrun⟩
  · obtain ⟨-, rfl⟩ := Prod.mk.inj (hrun.symm.trans h)
    -- at most the clock has moved on
    rcases hafter with rfl | rfl
    · exact .inl rfl
    · exact .inl (node?_tick disk l)
  · rw [hrun] at h
    cases h

/-- What a check does when it refreshes, up to the moment when there is something left to be done:
the artifact has the bytes of the source, and every other location is as before. -/
structure Renewal (cache : ViewCache) (source : Path) (viewId : Text) (disk after : Disk) :
    Prop where
  /-- The artifact is a file with the source's bytes, and is found where it belongs. -/
  copied : ∃ content modified, disk.read source = .ok content ∧
    after.node? (cache.artifactLocation viewId disk.here) = some (.file content modified) ∧
    after.read (cache.artifactPath viewId) = .ok content
  others : ∀ l, l ≠ cache.artifactLocation viewId disk.here → disk.Keeps after l

theorem renewal_of_refresh {name : Text}
    (h : (cache.refresh source).run.run disk = (.ok name, disk'))
    (hview : source.viewId? = some viewId) : Renewal cache source viewId disk disk' := by
  rcases refresh_cases cache hview disk with
    ⟨error, after, hrun, -⟩ | ⟨content, modified, hstat, hartifact, hrun⟩
  · rw [hrun] at h
    cases h
  · obtain ⟨-, rfl⟩ := Prod.mk.inj (hrun.symm.trans h)
    obtain ⟨-, hread, -⟩ := read_of_refresh hview hstat hartifact hrun
    have hsource : disk.read source = .ok content := read_eq_ok.mpr ⟨_, hstat⟩
    have hnode := node?_renewed_self cache viewId content modified disk
    exact {
      copied := ⟨content, _, hsource, hnode, hread⟩
      others := fun l hne ↦ keeps_renewed content modified hne }

/-- Every check does one of three things, and which one does not depend on what is to be done after
a refresh. It fails and changes no file; or it finds the artifact fresh and changes nothing at all;
or it renews the artifact and nothing else, and then does, once, what is to be done. -/
theorem ensureFreshWith_all_or_nothing (cache : ViewCache) (source : Path) (force : Bool)
    (disk : Disk) :
    (∃ error after, (∀ l, disk.Keeps after l) ∧
      ∀ {β : Type} (onRefresh : StateM Disk β),
        (cache.ensureFreshWith source force onRefresh).run.run disk = (.error error, after)) ∨
    (∃ viewId, source.viewId? = some viewId ∧
      force = false ∧ cache.isStale source disk = .ok false ∧
      ∀ {β : Type} (onRefresh : StateM Disk β),
        (cache.ensureFreshWith source force onRefresh).run.run disk
          = (.ok (⟨viewId, renderName viewId, false⟩, none), disk)) ∨
    ∃ viewId after, source.viewId? = some viewId ∧
      (force = true ∨ cache.isStale source disk = .ok true) ∧
      Renewal cache source viewId disk after ∧
      ∀ {β : Type} (onRefresh : StateM Disk β),
        (cache.ensureFreshWith source force onRefresh).run.run disk
          = (.ok (⟨viewId, renderName viewId, true⟩, some (onRefresh.run after).1),
            (onRefresh.run after).2) := by
  cases hview : source.viewId? with
  | none =>
    refine .inl ⟨.noViewId source, disk, fun l ↦ .inl rfl, fun onRefresh ↦ ?_⟩
    exact run_ensureFreshWith_of_no_viewId hview force onRefresh disk
  | some viewId =>
    cases hstale : (if force then .ok true else cache.isStale source disk) with
    | error error =>
      refine .inl ⟨error, disk, fun l ↦ .inl rfl, fun onRefresh ↦ ?_⟩
      rw [run_ensureFreshWith hview, hstale]
    | ok stale =>
      cases stale with
      | false =>
        -- a forced check never takes this way
        have hforce : force = false := by
          cases force with
          | false => rfl
          | true => simp at hstale
        subst hforce
        refine .inr (.inl ⟨viewId, rfl, rfl, by simpa using hstale, fun onRefresh ↦ ?_⟩)
        rw [run_ensureFreshWith hview, hstale]
      | true =>
        have hreason : force = true ∨ cache.isStale source disk = .ok true := by
          cases force with
          | false => exact .inr (by simpa using hstale)
          | true => exact .inl rfl
        cases hrun : (cache.refresh source).run.run disk with
        | mk answer after =>
          cases answer with
          | error error =>
            refine .inl ⟨error, after, keeps_of_refresh_error hrun, fun onRefresh ↦ ?_⟩
            rw [run_ensureFreshWith hview, hstale]
            simp only [hrun]
          | ok name =>
            have hrenewal := renewal_of_refresh hrun hview
            refine .inr (.inr ⟨viewId, after, rfl, hreason, hrenewal, fun onRefresh ↦ ?_⟩)
            rw [run_ensureFreshWith hview, hstale]
            simp only [hrun]

end CompiledViews.ViewCache
