import CompiledViews.Proofs.Disk.Alike
import CompiledViews.Proofs.ViewCache.Artifact

/-!
# Refreshing an artifact

A refresh fails and changes at most the clock, or it puts the source's bytes into the artifact, with
a date that is neither before the source's nor before the moment of copying. Whether it succeeds,
and what it answers, does not depend on any date.
-/

namespace CompiledViews.ViewCache

open Disk

variable {cache : ViewCache} {source : Path} {viewId : Text} {disk disk' : Disk}

def artifactLocation (cache : ViewCache) (viewId : Text) (here : Location) : Location :=
  cache.directory.goal here ++ [artifactName viewId]

theorem goal_prefix_artifactLocation (cache : ViewCache) (viewId : Text) (here : Location) :
    cache.directory.goal here <+: cache.artifactLocation viewId here := List.prefix_append _ _

theorem artifactLocation_injective {other : Text} {here : Location}
    (h : cache.artifactLocation viewId here = cache.artifactLocation other here) :
    viewId = other :=
  artifactName_injective (List.singleton_inj.mp (List.append_cancel_left h))

/-- The disk after the bytes of a source have been put into the artifact of a view. -/
def renewed (cache : ViewCache) (viewId : Text) (content : ByteArray) (modified : Time)
    (disk : Disk) : Disk :=
  place (cache.artifactLocation viewId disk.here) (.file content (max (disk.clock + 1) modified))
    disk.tick.tick

/-- What comes of putting the bytes of a source into the artifact of a view. -/
def putArtifact (cache : ViewCache) (viewId : Text) (content : ByteArray) (modified : Time)
    (disk : Disk) : Except ViewCacheError Text × Disk :=
  match disk.destination (cache.directory.join ⟨['d']⟩) with
  | .error fault => (.error (.io cache.directory fault), disk)
  | .ok _ =>
    match disk.destination (cache.artifactPath viewId) with
    | .error fault => (.error (.io (cache.artifactPath viewId) fault), disk.tick)
    | .ok _ =>
      if disk.kind (cache.artifactLocation viewId disk.here) = some true then
        (.error (.io (cache.artifactPath viewId) .isADirectory), disk.tick)
      else (.ok (renderName viewId), cache.renewed viewId content modified disk)

private theorem run_publish_artifact (cache : ViewCache) (hslash : '/' ∉ viewId)
    (content : ByteArray) (modified : Time) (location : Location) (disk : Disk) :
    (do
      (publish ⟨location, content, max (disk.clock + 1) modified⟩
        (cache.artifactPath viewId)).adapt (.io (cache.artifactPath viewId))
      return renderName viewId : Action ViewCacheError Text).run.run disk.tick =
      match disk.destination (cache.artifactPath viewId) with
      | .error fault => (.error (.io (cache.artifactPath viewId) fault), disk.tick)
      | .ok _ =>
        if disk.kind (cache.artifactLocation viewId disk.here) = some true then
          (.error (.io (cache.artifactPath viewId) .isADirectory), disk.tick)
        else (.ok (renderName viewId), cache.renewed viewId content modified disk) := by
  have htick : disk.tick.destination (cache.artifactPath viewId)
      = disk.destination (cache.artifactPath viewId) := destination_congr rfl fun _ _ ↦ rfl
  rw [run_bind, run_adapt, run_publish, htick]
  cases hd : disk.destination (cache.artifactPath viewId) with
  | error fault => rfl
  | ok d =>
    have hentry := eq_entry_of_destination (isName_artifactName hslash) hd
    subst hentry
    dsimp only
    rw [← artifactLocation, show disk.tick.kind (cache.artifactLocation viewId disk.here)
      = disk.kind (cache.artifactLocation viewId disk.here) from rfl]
    by_cases hkind : disk.kind (cache.artifactLocation viewId disk.here) = some true
    · simp only [if_pos hkind]
      rfl
    · simp only [if_neg hkind]
      rfl

theorem run_refresh (hview : source.viewId? = some viewId) (disk : Disk) :
    (cache.refresh source).run.run disk =
      match disk.stat source with
      | .error fault => (.error (.io source fault), disk)
      | .ok (.directory _) => (.error (.io source .isADirectory), disk)
      | .ok (.file content modified) => cache.putArtifact viewId content modified disk := by
  have hslash := Path.not_mem_of_viewId? hview
  have hrequire : requireViewId source = .ok viewId := by rw [requireViewId, hview]
  rw [refresh, run_bind, run_query, hrequire]
  simp only [run_bind, run_query, modifiedAt, modified, Disk.read]
  rcases hstat : disk.stat source with fault | ⟨content, time⟩ | time
  · rfl
  · simp only [Except.map, mapError_ok, hstat]
    rw [run_adapt, run_draft, putArtifact]
    rcases disk.destination (cache.directory.join ⟨['d']⟩) with
      fault | location | ⟨location, name, slashed⟩
    · rfl
    · have hpublish := run_publish_artifact cache hslash content time location disk
      rw [run_bind] at hpublish
      exact hpublish
    · have hpublish := run_publish_artifact cache hslash content time location disk
      rw [run_bind] at hpublish
      exact hpublish
  · simp only [Except.map, mapError_ok, mapError_error, hstat]

theorem putArtifact_cases (content : ByteArray) (modified : Time) (disk : Disk) :
    (∃ error disk', cache.putArtifact viewId content modified disk = (.error error, disk') ∧
      (disk' = disk ∨ disk' = disk.tick)) ∨
    ¬disk.HasDirectory (cache.artifactLocation viewId disk.here) ∧
      cache.putArtifact viewId content modified disk
        = (.ok (renderName viewId), cache.renewed viewId content modified disk) := by
  rw [putArtifact]
  split
  · exact .inl ⟨_, _, rfl, .inl rfl⟩
  · split
    · exact .inl ⟨_, _, rfl, .inr rfl⟩
    · by_cases hkind : disk.kind (cache.artifactLocation viewId disk.here) = some true
      · rw [if_pos hkind]
        exact .inl ⟨_, _, rfl, .inr rfl⟩
      · rw [if_neg hkind]
        exact .inr ⟨hkind, rfl⟩

theorem putArtifact_of_stat (hslash : '/' ∉ viewId) {old : ByteArray} {written : Time}
    (hstat : disk.stat (cache.artifactPath viewId) = .ok (.file old written))
    (content : ByteArray) (modified : Time) :
    cache.putArtifact viewId content modified disk
      = (.ok (renderName viewId), cache.renewed viewId content modified disk) := by
  obtain ⟨⟨d, hd⟩, hnode⟩ := stat_eq_ok hstat
  have hname := isName_artifactName hslash
  have hdraft : Text.IsName ['d'] := ⟨by decide, by decide, by decide, by decide⟩
  have hlength : Text.utf8Length ['d'] ≤ (artifactName viewId).utf8Length := by
    rw [artifactName, Text.utf8Length_append]
    exact Nat.le_trans (by decide) (Nat.le_add_left _ _)
  have hsibling := destination_sibling hname hdraft (by decide) (by decide) hlength hd
  rw [goal_artifactPath cache hslash, ← artifactLocation] at hnode
  have hfile : disk.kind (cache.artifactLocation viewId disk.here) ≠ some true := by
    rw [kind, hnode]
    simp [Node.isDirectory]
  rw [putArtifact, hsibling, hd]
  dsimp only
  rw [if_neg hfile]

/-- Where an artifact cannot be looked up although it may be there, it cannot be written either. -/
theorem refresh_of_stat_error (hview : source.viewId? = some viewId) {fault : IoFault}
    (hstat : disk.stat (cache.artifactPath viewId) = .error fault) (hfault : fault ≠ .notFound) :
    ∃ error after, (cache.refresh source).run.run disk = (.error error, after) := by
  have hslash := Path.not_mem_of_viewId? hview
  rw [run_refresh hview]
  rcases disk.stat source with fault' | ⟨content, time⟩ | time
  · exact ⟨_, _, rfl⟩
  · dsimp only
    rw [putArtifact.eq_def]
    split
    · exact ⟨_, _, rfl⟩
    · split
      · exact ⟨_, _, rfl⟩
      · next d hd =>
        -- the artifact's path leads somewhere, so only a missing file could be at fault
        rw [stat_eq_of_destination hd (cache.unslashed_artifactPath hslash)] at hstat
        split at hstat
        · cases hstat
          exact absurd rfl hfault
        · cases hstat
  · exact ⟨_, _, rfl⟩

/-! ## The renewed disk -/

@[simp] theorem here_renewed (cache : ViewCache) (viewId : Text) (content : ByteArray)
    (modified : Time) (disk : Disk) :
    (cache.renewed viewId content modified disk).here = disk.here := by
  rw [renewed, here_place]
  rfl

@[simp] theorem clock_renewed (cache : ViewCache) (viewId : Text) (content : ByteArray)
    (modified : Time) (disk : Disk) :
    (cache.renewed viewId content modified disk).clock = disk.clock + 2 := by
  rw [renewed, clock_place]
  rfl

/-- A renewal touches the artifact and the directory that it is in. -/
theorem node?_renewed (cache : ViewCache) (viewId : Text) (content : ByteArray) (modified : Time)
    (disk : Disk) (l : Location) :
    (l = cache.artifactLocation viewId disk.here ∧
      (cache.renewed viewId content modified disk).node? l
        = some (.file content (max (disk.clock + 1) modified))) ∨
    (l = cache.directory.goal disk.here ∧ disk.HasDirectory l ∧
      (cache.renewed viewId content modified disk).node? l = some (.directory (disk.clock + 2))) ∨
    (l ≠ cache.artifactLocation viewId disk.here ∧
      (cache.renewed viewId content modified disk).node? l = disk.node? l) :=
  node?_place disk.tick.tick _ _ _ l

theorem node?_renewed_self (cache : ViewCache) (viewId : Text) (content : ByteArray)
    (modified : Time) (disk : Disk) :
    (cache.renewed viewId content modified disk).node? (cache.artifactLocation viewId disk.here)
      = some (.file content (max (disk.clock + 1) modified)) := by
  rcases node?_renewed cache viewId content modified disk
    (cache.artifactLocation viewId disk.here) with ⟨-, hnew⟩ | ⟨heq, -⟩ | ⟨hne, -⟩
  · exact hnew
  · simp [artifactLocation] at heq
  · exact absurd rfl hne

theorem node?_renewed_of_ne {other : Text} (hne : other ≠ viewId) (content : ByteArray)
    (modified : Time) (disk : Disk) :
    (cache.renewed viewId content modified disk).node? (cache.artifactLocation other disk.here)
      = disk.node? (cache.artifactLocation other disk.here) := by
  rcases node?_renewed cache viewId content modified disk
    (cache.artifactLocation other disk.here) with ⟨heq, -⟩ | ⟨heq, -⟩ | ⟨-, hkept⟩
  · exact absurd (artifactLocation_injective heq) hne
  · simp [artifactLocation] at heq
  · exact hkept

theorem node?_renewed_of_not_prefix (content : ByteArray) (modified : Time) {l : Location}
    (hl : ¬cache.directory.goal disk.here <+: l) :
    (cache.renewed viewId content modified disk).node? l = disk.node? l := by
  rcases node?_renewed cache viewId content modified disk l with ⟨rfl, -⟩ | ⟨rfl, -⟩ | ⟨-, hnode⟩
  · exact absurd (List.prefix_append _ _) hl
  · exact absurd List.prefix_rfl hl
  · exact hnode

theorem sight_renewed (content : ByteArray) (modified : Time) {l : Location}
    (hl : l ≠ cache.artifactLocation viewId disk.here) :
    (cache.renewed viewId content modified disk).sight l = disk.sight l :=
  sight_place disk.tick.tick _ hl

theorem sight_renewed_self (content : ByteArray) (modified : Time) (disk : Disk) :
    (cache.renewed viewId content modified disk).sight (cache.artifactLocation viewId disk.here)
      = some (some content) :=
  sight_place_self disk.tick.tick _ _ _

theorem hasDirectory_renewed (content : ByteArray) (modified : Time)
    (hartifact : ¬disk.HasDirectory (cache.artifactLocation viewId disk.here)) {l : Location}
    (hl : disk.HasDirectory l) : (cache.renewed viewId content modified disk).HasDirectory l := by
  have hne : l ≠ cache.artifactLocation viewId disk.here := fun heq ↦ hartifact (heq ▸ hl)
  exact (kind_of_sight (sight_renewed content modified hne)).trans hl

/-- A refresh fails, or the artifact gets the bytes of the source. -/
theorem refresh_cases (cache : ViewCache) (hview : source.viewId? = some viewId) (disk : Disk) :
    (∃ error disk', (cache.refresh source).run.run disk = (.error error, disk') ∧
      (disk' = disk ∨ disk' = disk.tick)) ∨
    ∃ content modified, disk.stat source = .ok (.file content modified) ∧
      ¬disk.HasDirectory (cache.artifactLocation viewId disk.here) ∧
      (cache.refresh source).run.run disk
        = (.ok (renderName viewId), cache.renewed viewId content modified disk) := by
  rw [run_refresh hview]
  rcases disk.stat source with fault | ⟨content, time⟩ | time
  · exact .inl ⟨_, _, rfl, .inl rfl⟩
  · obtain hfailed | ⟨hdirectory, hput⟩ := putArtifact_cases content time disk
    · exact .inl hfailed
    · exact .inr ⟨content, time, rfl, hdirectory, hput⟩
  · exact .inl ⟨_, _, rfl, .inl rfl⟩

theorem destination_of_refresh (hview : source.viewId? = some viewId)
    (h : ((cache.refresh source).run.run disk).1.isOk = true) :
    ∃ d, disk.destination (cache.artifactPath viewId) = .ok d := by
  cases hd : disk.destination (cache.artifactPath viewId) with
  | error fault =>
    rw [run_refresh hview] at h
    split at h
    · cases h
    · cases h
    · rw [putArtifact, hd] at h
      split at h <;> cases h
  | ok d => exact ⟨d, rfl⟩

/-- An artifact that has been made can be looked up, as long as it is left there. -/
theorem stat_of_refresh (hview : source.viewId? = some viewId)
    (h : ((cache.refresh source).run.run disk).1.isOk = true) (hhere : disk'.here = disk.here)
    (hway : ∀ l ∈ entered (cache.directory.start disk.here) cache.directory.names,
      disk'.kind l = disk.kind l)
    {node : Node} (hnode : disk'.node? (cache.artifactLocation viewId disk.here) = some node) :
    disk'.stat (cache.artifactPath viewId) = .ok node := by
  have hslash := Path.not_mem_of_viewId? hview
  have hdestination : disk'.destination (cache.artifactPath viewId)
      = disk.destination (cache.artifactPath viewId) := by
    refine destination_congr hhere fun l hl ↦ hway l ?_
    rwa [way_artifactPath cache hslash] at hl
  obtain ⟨d, hd⟩ := destination_of_refresh hview h
  rw [stat_eq_of_destination (hdestination.trans hd) (cache.unslashed_artifactPath hslash), hhere,
    goal_artifactPath cache hslash, ← artifactLocation, hnode]

/-! ## Refreshing on disks that look alike -/

theorem putArtifact_alike {region : Location → Prop} (hslash : '/' ∉ viewId)
    (h : disk.Alike region disk') (content : ByteArray) (modified modified' : Time)
    (hway : ∀ l ∈ entered (cache.directory.start disk.here) cache.directory.names, ¬region l)
    (hkind : disk'.HasDirectory (cache.artifactLocation viewId disk.here) ↔
      disk.HasDirectory (cache.artifactLocation viewId disk.here)) :
    (cache.putArtifact viewId content modified' disk').1
        = (cache.putArtifact viewId content modified disk).1 ∧
      (cache.putArtifact viewId content modified disk).2.Alike region
        (cache.putArtifact viewId content modified' disk').2 ∧
      ((cache.putArtifact viewId content modified disk).1.isOk = true →
        (cache.putArtifact viewId content modified' disk').2.sight
            (cache.artifactLocation viewId disk.here)
          = (cache.putArtifact viewId content modified disk).2.sight
            (cache.artifactLocation viewId disk.here)) := by
  -- draft and artifact are entries of one directory, and the way there looks alike
  have hdraft : disk'.destination (cache.directory.join ⟨['d']⟩)
      = disk.destination (cache.directory.join ⟨['d']⟩) := by
    refine h.destination fun l hl ↦ hway l ?_
    rwa [Path.way_join (by decide) (by decide),
      show Path.names (⟨['d']⟩ : Path) = [['d']] by decide, List.dropLast_singleton, entered_nil,
      List.append_nil] at hl
  have hartifact : disk'.destination (cache.artifactPath viewId)
      = disk.destination (cache.artifactPath viewId) := by
    refine h.destination fun l hl ↦ hway l ?_
    rwa [way_artifactPath cache hslash] at hl
  rw [putArtifact, putArtifact, hdraft, hartifact, h.here]
  split
  · exact ⟨rfl, h, fun hok ↦ by simp [Except.isOk, Except.toBool] at hok⟩
  · split
    · exact ⟨rfl, ⟨h.here, h.sight⟩, fun hok ↦ by simp [Except.isOk, Except.toBool] at hok⟩
    · by_cases hdirectory : disk.kind (cache.artifactLocation viewId disk.here) = some true
      · have hdirectory' : disk'.kind (cache.artifactLocation viewId disk.here) = some true :=
          hkind.mpr hdirectory
        rw [if_pos hdirectory, if_pos hdirectory']
        exact ⟨rfl, ⟨h.here, h.sight⟩, fun hok ↦ by simp [Except.isOk, Except.toBool] at hok⟩
      · have hdirectory' : ¬disk'.kind (cache.artifactLocation viewId disk.here) = some true :=
          fun h' ↦ hdirectory (hkind.mp h')
        rw [if_neg hdirectory, if_neg hdirectory']
        have hself : ∀ (d : Disk) (m : Time), d.here = disk.here →
            (cache.renewed viewId content m d).sight (cache.artifactLocation viewId disk.here)
              = some (some content) := fun d m hhere ↦ hhere ▸ sight_renewed_self content m d
        have hnew := (hself disk' modified' h.here).trans (hself disk modified rfl).symm
        refine ⟨rfl, ⟨?_, fun l hl ↦ ?_⟩, fun _ ↦ hnew⟩
        · rw [here_renewed, here_renewed, h.here]
        · by_cases heq : l = cache.artifactLocation viewId disk.here
          · rw [heq, hnew]
          · rw [sight_renewed content modified heq,
              sight_renewed content modified' (by rwa [h.here])]
            exact h.sight l hl

/-- Refreshing the artifact of a source has the same answer on disks that look alike, and leaves
them alike; where it succeeds, the artifact looks the same too. -/
theorem refresh_alike {region : Location → Prop} (hview : source.viewId? = some viewId)
    (h : disk.Alike region disk') (hsource : ∀ l ∈ source.trail disk.here, ¬region l)
    (hway : ∀ l ∈ entered (cache.directory.start disk.here) cache.directory.names, ¬region l)
    (hkind : disk'.HasDirectory (cache.artifactLocation viewId disk.here) ↔
      disk.HasDirectory (cache.artifactLocation viewId disk.here)) :
    ((cache.refresh source).run.run disk').1 = ((cache.refresh source).run.run disk).1 ∧
      ((cache.refresh source).run.run disk).2.Alike region
        ((cache.refresh source).run.run disk').2 ∧
      (((cache.refresh source).run.run disk).1.isOk = true →
        ((cache.refresh source).run.run disk').2.sight (cache.artifactLocation viewId disk.here)
          = ((cache.refresh source).run.run disk).2.sight
            (cache.artifactLocation viewId disk.here)) := by
  have hstat := h.stat hsource
  rw [run_refresh hview, run_refresh hview]
  rcases hold : disk.stat source with fault | ⟨content, time⟩ | time <;>
    rcases hnew : disk'.stat source with fault' | ⟨content', time'⟩ | time' <;>
    simp only [hold, hnew, Except.map, Node.sight, Except.ok.injEq, Except.error.injEq,
      reduceCtorEq, Option.some.injEq] at hstat
  · subst hstat
    exact ⟨rfl, h, fun hok ↦ by simp [Except.isOk, Except.toBool] at hok⟩
  · subst hstat
    exact putArtifact_alike (Path.not_mem_of_viewId? hview) h content' time time' hway hkind
  · exact ⟨rfl, h, fun hok ↦ by simp [Except.isOk, Except.toBool] at hok⟩

/-! ## Checking an artifact -/

theorem isStale_eq (hview : source.viewId? = some viewId) (disk : Disk) :
    cache.isStale source disk = match disk.stat (cache.artifactPath viewId) with
      | .ok node => match disk.stat source with
        | .ok node' => .ok (decide (node.modified ≤ node'.modified))
        | .error fault => .error (.io source fault)
      | .error .notFound => .ok true
      | .error fault => .error (.io (cache.artifactPath viewId) fault) := by
  have hrequire : requireViewId source = .ok viewId := by rw [requireViewId, hview]
  simp only [isStale, hrequire, bind, Except.bind]
  rw [modified, modifiedAt, modified]
  rcases disk.stat (cache.artifactPath viewId) with fault | node
  · cases fault <;> rfl
  · rcases disk.stat source with fault | node' <;> rfl

theorem run_ensureFreshWith_of_no_viewId {β : Type} (hview : source.viewId? = none) (force : Bool)
    (onRefresh : StateM Disk β) (disk : Disk) :
    (cache.ensureFreshWith source force onRefresh).run.run disk
      = (.error (.noViewId source), disk) := by
  rw [ensureFreshWith, run_bind, run_query, requireViewId, hview]

theorem run_ensureFreshWith {β : Type} (hview : source.viewId? = some viewId) (force : Bool)
    (onRefresh : StateM Disk β) (disk : Disk) :
    (cache.ensureFreshWith source force onRefresh).run.run disk =
      match (if force then .ok true else cache.isStale source disk) with
      | .error error => (.error error, disk)
      | .ok false => (.ok (⟨viewId, renderName viewId, false⟩, none), disk)
      | .ok true =>
        match (cache.refresh source).run.run disk with
        | (.error error, after) => (.error error, after)
        | (.ok _, after) => (.ok (⟨viewId, renderName viewId, true⟩, some (onRefresh.run after).1),
            (onRefresh.run after).2) := by
  have hrequire : requireViewId source = .ok viewId := by rw [requireViewId, hview]
  have hrefreshed : ((do
      let _ ← cache.refresh source
      let result ← liftM onRefresh
      return (⟨viewId, renderName viewId, true⟩, some result) :
        Action ViewCacheError (CacheCheck × Option β)).run.run disk) =
      match (cache.refresh source).run.run disk with
      | (.error error, after) => (.error error, after)
      | (.ok _, after) => (.ok (⟨viewId, renderName viewId, true⟩, some (onRefresh.run after).1),
          (onRefresh.run after).2) := by
    rw [run_bind]
    rcases (cache.refresh source).run.run disk with ⟨_ | _, after⟩ <;> rfl
  rw [ensureFreshWith, run_bind, run_query, hrequire]
  cases force with
  | true => exact hrefreshed
  | false =>
    simp only [run_bind, run_query, Bool.false_eq_true, if_false]
    rcases cache.isStale source disk with error | _ | _
    · rfl
    · rfl
    · exact hrefreshed

end CompiledViews.ViewCache
