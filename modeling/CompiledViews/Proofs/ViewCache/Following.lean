import CompiledViews.Proofs.Disk.Dated
import CompiledViews.Proofs.ViewCache.Refresh
import Mathlib.Logic.Function.Basic
import Mathlib.Logic.Relation

/-!
# Artifacts follow their sources

Checks compare dates and nothing else, yet whenever one succeeds, the artifact has the bytes of its
source. This holds at every moment of every run in which the sources are written and removed, even
with dates in the future, as long as the dates of each source never go back, and in which no two
sources share a view id.

The reason is that an artifact's date is one that the clock has shown, or one that its source has
had. Whatever is written later is not dated before it, and equal dates count as expired; so a source
that is older than its artifact is the very one that was copied. A source may also be its own
artifact, when it lies in the directory of artifacts; then there is nothing to compare.
-/

namespace CompiledViews.ViewCache

open Disk

variable {cache : ViewCache} {source other : Path} {viewId otherId : Text} {disk disk' : Disk}
  {here : Location} {latest latest' : Time}

/-! ## Sources and artifacts -/

theorem viewId_eq_of_goal (hview : source.viewId? = some viewId)
    (hother : other.viewId? = some otherId)
    (h : source.goal here = cache.artifactLocation otherId here) : viewId = otherId := by
  obtain ⟨hstem, -⟩ := Path.goal_of_viewId? hother here
  obtain ⟨-, directory, name, hgoal, rfl⟩ := Path.goal_of_viewId? hview here
  rw [hgoal, artifactLocation] at h
  have hname : name = artifactName otherId := List.singleton_inj.mp (List.append_inj_right' h rfl)
  rw [hname, splitExtension_artifactName hstem]

/-! ## What one call does -/

/-- A refresh fails and changes at most the clock, or it copies the source. -/
theorem refresh_outcome (cache : ViewCache) (source : Path) (disk : Disk) :
    (∃ error disk', (cache.refresh source).run.run disk = (.error error, disk') ∧
      (disk' = disk ∨ disk' = disk.tick)) ∨
    ∃ viewId content modified, source.viewId? = some viewId ∧
      disk.stat source = .ok (.file content modified) ∧
      ¬disk.HasDirectory (cache.artifactLocation viewId disk.here) ∧
      (cache.refresh source).run.run disk
        = (.ok (renderName viewId), cache.renewed viewId content modified disk) := by
  cases hview : source.viewId? with
  | none =>
    refine .inl ⟨.noViewId source, disk, ?_, .inl rfl⟩
    rw [refresh, run_bind, run_query, requireViewId, hview]
  | some viewId =>
    obtain hfailed | ⟨content, modified, hstat, hdirectory, hrun⟩ := refresh_cases cache hview disk
    · exact .inl hfailed
    · exact .inr ⟨viewId, content, modified, rfl, hstat, hdirectory, hrun⟩

theorem run_ensureFresh (hview : source.viewId? = some viewId) (force : Bool) (disk : Disk) :
    (cache.ensureFresh source force).run.run disk =
      match (if force then .ok true else cache.isStale source disk) with
      | .error error => (.error error, disk)
      | .ok false => (.ok ⟨viewId, renderName viewId, false⟩, disk)
      | .ok true =>
        match (cache.refresh source).run.run disk with
        | (.error error, after) => (.error error, after)
        | (.ok _, after) => (.ok ⟨viewId, renderName viewId, true⟩, after) := by
  rw [ensureFresh, run_bind, run_ensureFreshWith hview]
  generalize (if force = true then Except.ok true else cache.isStale source disk) = stale
  rcases stale with error | _ | _
  · rfl
  · rfl
  · dsimp only
    rcases (cache.refresh source).run.run disk with ⟨_ | _, after⟩ <;> rfl

/-- A check that lets an artifact be has found it and its source, and has found it newer. -/
theorem stat_of_fresh (hview : source.viewId? = some viewId)
    (h : cache.isStale source disk = .ok false) :
    ∃ node node', disk.stat (cache.artifactPath viewId) = .ok node ∧
      disk.stat source = .ok node' ∧ node'.modified < node.modified := by
  rw [isStale_eq hview] at h
  split at h
  · next node hartifact =>
    split at h
    · next node' hsource =>
      rw [Except.ok.injEq, decide_eq_false_iff_not, Nat.not_le] at h
      exact ⟨node, node', hartifact, hsource, h⟩
    · cases h
  · cases h
  · cases h

/-- A check changes nothing that a refresh would not change. -/
theorem ensureFresh_outcome (cache : ViewCache) (source : Path) (force : Bool) (disk : Disk) :
    ((cache.ensureFresh source force).run.run disk).2 = disk ∨
      ((cache.ensureFresh source force).run.run disk).2
        = ((cache.refresh source).run.run disk).2 := by
  cases hview : source.viewId? with
  | none =>
    left
    rw [ensureFresh, run_bind, run_ensureFreshWith_of_no_viewId hview]
  | some viewId =>
    rw [run_ensureFresh hview]
    generalize (if force = true then Except.ok true else cache.isStale source disk) = stale
    rcases stale with error | _ | _
    · exact .inl rfl
    · exact .inl rfl
    · right
      dsimp only
      rcases (cache.refresh source).run.run disk with ⟨_ | _, after⟩ <;> rfl

theorem keeps_renewed (content : ByteArray) (modified : Time) {l : Location}
    (hne : l ≠ cache.artifactLocation viewId disk.here) :
    disk.Keeps (cache.renewed viewId content modified disk) l := by
  rcases node?_renewed cache viewId content modified disk l with
    ⟨heq, -⟩ | ⟨-, hold, hnew⟩ | ⟨-, hsame⟩
  · exact absurd heq hne
  · exact .inr ⟨hold, hasDirectory_of_node hnew⟩
  · exact .inl hsame

/-- What leads to the artifacts is what it was when one of them has been renewed. -/
theorem kind_renewed_of_mem_entered (hview : source.viewId? = some viewId) {content : ByteArray}
    {modified : Time} (hartifact : ¬disk.HasDirectory (cache.artifactLocation viewId disk.here))
    (hrun : (cache.refresh source).run.run disk
      = (.ok (renderName viewId), cache.renewed viewId content modified disk))
    {l : Location} (hl : l ∈ entered (cache.directory.start disk.here) cache.directory.names) :
    (cache.renewed viewId content modified disk).kind l = disk.kind l := by
  have hok : ((cache.refresh source).run.run disk).1.isOk = true := by
    rw [hrun]
    rfl
  obtain ⟨artifact, hdestination⟩ := destination_of_refresh hview hok
  refine kind_of_sight (sight_renewed content modified ?_)
  rintro rfl
  rw [← way_artifactPath cache (Path.not_mem_of_viewId? hview)] at hl
  exact hartifact (hasDirectory_of_destination hdestination hl)

/-- A renewed artifact is found at its path, with the date that it has been given. -/
theorem stat_artifact_renewed (hview : source.viewId? = some viewId) {content : ByteArray}
    {modified : Time} (hartifact : ¬disk.HasDirectory (cache.artifactLocation viewId disk.here))
    (hrun : (cache.refresh source).run.run disk
      = (.ok (renderName viewId), cache.renewed viewId content modified disk)) :
    (cache.renewed viewId content modified disk).stat (cache.artifactPath viewId)
      = .ok (.file content (max (disk.clock + 1) modified)) := by
  have hok : ((cache.refresh source).run.run disk).1.isOk = true := by
    rw [hrun]
    rfl
  exact stat_of_refresh hview hok (here_renewed ..)
    (fun l hl ↦ kind_renewed_of_mem_entered hview hartifact hrun hl) (node?_renewed_self ..)

/-- The source of a renewed artifact is found as it was, unless it is the artifact itself; then it
has got the artifact's date. -/
theorem stat_source_renewed {content : ByteArray} {modified : Time}
    (hstat : disk.stat source = .ok (.file content modified))
    (hartifact : ¬disk.HasDirectory (cache.artifactLocation viewId disk.here)) :
    (cache.renewed viewId content modified disk).stat source = .ok (.file content
      (if source.goal disk.here = cache.artifactLocation viewId disk.here
        then max (disk.clock + 1) modified else modified)) := by
  obtain ⟨⟨d, hd⟩, hfile⟩ := stat_eq_ok hstat
  have hway : ∀ l ∈ source.way disk.here,
      (cache.renewed viewId content modified disk).kind l = disk.kind l := by
    intro l hl
    refine kind_of_sight (sight_renewed content modified ?_)
    rintro rfl
    exact hartifact (hasDirectory_of_destination hd hl)
  have hdestination := (destination_congr (here_renewed ..) hway).trans hd
  rw [stat_eq_bind hd, hfile] at hstat
  rw [stat_eq_bind hdestination, here_renewed]
  split
  · next heq =>
    rw [heq, node?_renewed_self]
    exact Destination.found_file hstat _
  · next hne =>
    rw [(keeps_renewed content modified hne).node? ?_, hfile]
    · exact hstat
    · simp [HasDirectory, kind, hfile, Node.isDirectory]

/-- After a refresh the source and its artifact read the same, and the other artifacts are what they
were. -/
theorem read_of_refresh (hview : source.viewId? = some viewId) {content : ByteArray}
    {modified : Time} (hstat : disk.stat source = .ok (.file content modified))
    (hartifact : ¬disk.HasDirectory (cache.artifactLocation viewId disk.here))
    (hrun : (cache.refresh source).run.run disk
      = (.ok (renderName viewId), cache.renewed viewId content modified disk)) :
    (cache.renewed viewId content modified disk).read source = .ok content ∧
      (cache.renewed viewId content modified disk).read (cache.artifactPath viewId) = .ok content ∧
      ∀ otherId, '/' ∉ otherId → otherId ≠ viewId →
        (cache.renewed viewId content modified disk).stat (cache.artifactPath otherId)
          = disk.stat (cache.artifactPath otherId) := by
  refine ⟨?_, ?_, fun otherId hother hne ↦ ?_⟩
  · exact read_eq_ok.mpr ⟨_, stat_source_renewed hstat hartifact⟩
  · exact read_eq_ok.mpr ⟨_, stat_artifact_renewed hview hartifact hrun⟩
  · refine stat_congr (here_renewed ..) (fun l hl ↦ ?_) ?_
    · rw [way_artifactPath cache hother] at hl
      exact kind_renewed_of_mem_entered hview hartifact hrun hl
    · rw [goal_artifactPath cache hother]
      exact node?_renewed_of_ne hne content modified disk

/-! ## What dates say -/

/-- Whether checks can go by the dates of a source and its artifact, where no date that the source
has had is after `latest`. -/
structure Follows (cache : ViewCache) (source : Path) (viewId : Text) (latest : Time)
    (disk : Disk) : Prop where
  dated : ∀ content time, disk.node? (source.goal disk.here) = some (.file content time) →
    time ≤ latest
  /-- The artifact is a file with a date of the clock's or of the source's, and the source, if there
  is one, is a file with the same bytes or with a date that is not before the artifact's. -/
  copied : ∀ node, disk.node? (cache.artifactLocation viewId disk.here) = some node →
    ∃ content written, node = .file content written ∧
      (written ≤ disk.clock ∨ written ≤ latest) ∧
      ∀ node', disk.node? (source.goal disk.here) = some node' →
        ∃ content' time, node' = .file content' time ∧ (time < written → content' = content)

namespace Follows

theorem not_directory (h : Follows cache source viewId latest disk) :
    ¬disk.HasDirectory (cache.artifactLocation viewId disk.here) := by
  intro hdirectory
  obtain ⟨time, hnode⟩ := hdirectory.exists_node
  obtain ⟨content, written, heq, -⟩ := h.copied _ hnode
  cases heq

/-- Where the source and its artifact are left alone, or removed, nothing changes. -/
theorem of_keeps (h : Follows cache source viewId latest disk) (hhere : disk'.here = disk.here)
    (hclock : disk.clock ≤ disk'.clock) (hlatest : latest ≤ latest')
    (hsource : disk'.node? (source.goal disk.here) = none ∨
      disk.Keeps disk' (source.goal disk.here))
    (hartifact : disk'.node? (cache.artifactLocation viewId disk.here) = none ∨
      disk.Keeps disk' (cache.artifactLocation viewId disk.here)) :
    Follows cache source viewId latest' disk' where
  dated := by
    intro content time hnode
    rw [hhere] at hnode
    rcases hsource with hgone | hkept
    · rw [hgone] at hnode
      cases hnode
    · exact Nat.le_trans (h.dated content time (hkept.file hnode)) hlatest
  copied := by
    intro node hnode
    rw [hhere] at hnode
    rcases hartifact with hgone | hkept
    · rw [hgone] at hnode
      cases hnode
    · rw [hkept.node? h.not_directory] at hnode
      obtain ⟨content, written, rfl, hwritten, hcopy⟩ := h.copied node hnode
      refine ⟨content, written, rfl, ?_, fun node' hnode' ↦ ?_⟩
      · exact hwritten.imp (fun hle ↦ Nat.le_trans hle hclock) fun hle ↦ Nat.le_trans hle hlatest
      · rw [hhere] at hnode'
        rcases hsource with hgone | hkept'
        · rw [hgone] at hnode'
          cases hnode'
        · -- a directory's date may have changed, but there is none while the artifact is there
          have hfile : ¬disk.HasDirectory (source.goal disk.here) := by
            intro hdirectory
            obtain ⟨time, hold⟩ := hdirectory.exists_node
            obtain ⟨_, _, heq, -⟩ := hcopy _ hold
            cases heq
          rw [hkept'.node? hfile] at hnode'
          exact hcopy node' hnode'

/-- A source that is written with a date that is not before any date it has had counts as newer than
its artifact. -/
theorem written (h : Follows cache source viewId latest disk)
    (hapart : source.goal disk.here ≠ cache.artifactLocation viewId disk.here)
    {content : ByteArray} {date : Time} (hwrite : WrittenAt source content date disk disk')
    (hclock : disk.clock < date) (hlatest : latest ≤ date) :
    Follows cache source viewId date disk' where
  dated := by
    intro content' time hnode
    rw [hwrite.here, hwrite.file] at hnode
    cases hnode
    exact Nat.le_refl _
  copied := by
    intro node hnode
    rw [hwrite.here, (hwrite.others _ hapart.symm).node? h.not_directory] at hnode
    obtain ⟨copy, written, rfl, hwritten, -⟩ := h.copied node hnode
    -- the artifact has been dated by the clock or like the source, and both dates lie behind
    have hle : written ≤ date := by
      rcases hwritten with hpast | hhad
      · exact Nat.le_of_lt (Nat.lt_of_le_of_lt hpast hclock)
      · exact Nat.le_trans hhad hlatest
    refine ⟨copy, written, rfl, .inr hle, fun node' hnode' ↦ ?_⟩
    rw [hwrite.here, hwrite.file] at hnode'
    cases hnode'
    exact ⟨content, date, rfl, fun hlt ↦ absurd hlt (Nat.not_lt_of_le hle)⟩

theorem renewed (h : Follows cache source viewId latest disk)
    (hapart : source.goal disk.here ≠ cache.artifactLocation viewId disk.here)
    {content : ByteArray} {modified : Time}
    (hfile : disk.node? (source.goal disk.here) = some (.file content modified)) :
    Follows cache source viewId latest (cache.renewed viewId content modified disk) := by
  have hsame : (cache.renewed viewId content modified disk).node? (source.goal disk.here)
      = some (.file content modified) := by
    rw [(keeps_renewed content modified hapart).node? ?_, hfile]
    simp [HasDirectory, kind, hfile, Node.isDirectory]
  refine ⟨fun content' time hnode ↦ ?_, fun node hnode ↦ ?_⟩
  · rw [here_renewed, hsame] at hnode
    cases hnode
    exact h.dated content modified hfile
  · rw [here_renewed, node?_renewed_self] at hnode
    cases hnode
    refine ⟨content, _, rfl, ?_, fun node' hnode' ↦ ?_⟩
    · -- the copy is dated by the clock, or like its source where that is dated ahead
      rw [clock_renewed]
      rcases Nat.le_total modified (disk.clock + 1) with hle | hle
      · rw [Nat.max_eq_left hle]
        exact .inl (Nat.le_succ _)
      · rw [Nat.max_eq_right hle]
        exact .inr (h.dated content modified hfile)
    · rw [here_renewed, hsame] at hnode'
      cases hnode'
      exact ⟨content, modified, rfl, fun _ ↦ rfl⟩

end Follows

/-! ## Runs -/

/-- A disk, with the latest date that the file at each path has had so far. -/
structure Dated where
  disk : Disk
  latest : Path → Time

/-- What may happen to sources and their artifacts. -/
inductive Event (cache : ViewCache) (sources : Path → Prop) : Dated → Dated → Prop
  /-- Time passes. -/
  | pause (s : Dated) (later : Time) (hlater : s.disk.clock ≤ later) :
    Event cache sources s { s with disk := { s.disk with clock := later } }
  /-- A source is written. Its date is not before the moment of writing, nor before any date that it
  has had. -/
  | write (s : Dated) (source : Path) (content : ByteArray) (date : Time) (disk : Disk)
    (hsource : sources source) (hclock : s.disk.clock < date) (hlatest : s.latest source ≤ date)
    (hrun : (writeDated source content date).run.run s.disk = (.ok (), disk)) :
    Event cache sources s ⟨disk, Function.update s.latest source date⟩
  /-- A source could not be written. -/
  | unwritten (s : Dated) (source : Path) (content : ByteArray) (date : Time) (fault : IoFault)
    (disk : Disk) (hsource : sources source)
    (hrun : (writeDated source content date).run.run s.disk = (.error fault, disk)) :
    Event cache sources s { s with disk }
  | remove (s : Dated) (source : Path) (hsource : sources source) :
    Event cache sources s { s with disk := ((Disk.remove source).run.run s.disk).2 }
  | refresh (s : Dated) (source : Path) (hsource : sources source) :
    Event cache sources s { s with disk := ((cache.refresh source).run.run s.disk).2 }
  | check (s : Dated) (source : Path) (force : Bool) (hsource : sources source) :
    Event cache sources s { s with disk := ((cache.ensureFresh source force).run.run s.disk).2 }

/-- Where a run may begin: there are no artifacts yet. -/
structure Begins (cache : ViewCache) (sources : Path → Prop) (s : Dated) : Prop where
  bare : ∀ source viewId, sources source → source.viewId? = some viewId →
    s.disk.node? (cache.artifactLocation viewId s.disk.here) = none
  dated : ∀ source content time, sources source →
    s.disk.node? (source.goal s.disk.here) = some (.file content time) → time ≤ s.latest source

/-- What is true of every source that is not its own artifact. -/
def AllFollow (cache : ViewCache) (sources : Path → Prop) (s : Dated) : Prop :=
  ∀ source viewId, sources source → source.viewId? = some viewId →
    source.goal s.disk.here ≠ cache.artifactLocation viewId s.disk.here →
      Follows cache source viewId (s.latest source) s.disk

/-- Whether no two sources share a view id. -/
def DistinctIds (sources : Path → Prop) : Prop :=
  ∀ source other viewId, sources source → sources other → source.viewId? = some viewId →
    other.viewId? = some viewId → source = other

variable {sources : Path → Prop} {s s' start : Dated}

theorem Begins.allFollow (h : Begins cache sources s) : AllFollow cache sources s := by
  intro source viewId hsource hview _
  refine ⟨fun content time hnode ↦ h.dated source content time hsource hnode, fun node hnode ↦ ?_⟩
  rw [h.bare source viewId hsource hview] at hnode
  cases hnode

namespace AllFollow

/-- Where sources and artifacts are left alone, or removed, they go on following. -/
theorem of_keeps (h : AllFollow cache sources s) {disk : Disk} (hhere : disk.here = s.disk.here)
    (hclock : s.disk.clock ≤ disk.clock)
    (hkeeps : ∀ l, disk.node? l = none ∨ s.disk.Keeps disk l) :
    AllFollow cache sources { s with disk } := by
  intro source viewId hsource hview hapart
  have hapart' : source.goal s.disk.here ≠ cache.artifactLocation viewId s.disk.here := by
    rwa [← hhere]
  exact (h source viewId hsource hview hapart').of_keeps hhere hclock (Nat.le_refl _) (hkeeps _)
    (hkeeps _)

theorem refreshed (h : AllFollow cache sources s)
    (hdistinct : DistinctIds sources) (hsource : sources source) :
    AllFollow cache sources { s with disk := ((cache.refresh source).run.run s.disk).2 } := by
  obtain ⟨error, disk', hrun, rfl | rfl⟩ | ⟨viewId, content, modified, hview, hstat, -, hrun⟩ :=
    refresh_outcome cache source s.disk
  · rw [hrun]
    exact h
  · rw [hrun]
    exact h.of_keeps rfl (Nat.le_succ _) fun _ ↦ .inr (.inl rfl)
  · rw [hrun]
    intro other otherId hother hotherView hapart
    change other.goal (cache.renewed viewId content modified s.disk).here
      ≠ cache.artifactLocation otherId (cache.renewed viewId content modified s.disk).here at hapart
    rw [here_renewed] at hapart
    have hfollows := h other otherId hother hotherView hapart
    by_cases hsame : otherId = viewId
    · subst hsame
      obtain rfl := hdistinct other source otherId hother hsource hotherView hview
      exact hfollows.renewed hapart (stat_eq_ok hstat).2
    · -- neither the other source nor its artifact is what has been renewed
      refine hfollows.of_keeps (here_renewed ..) ?_ (Nat.le_refl _) (.inr ?_) (.inr ?_)
      · rw [clock_renewed]
        exact Nat.le_add_right _ _
      · exact keeps_renewed content modified fun heq ↦
          hsame (viewId_eq_of_goal hotherView hview heq)
      · exact keeps_renewed content modified fun heq ↦ hsame (artifactLocation_injective heq)

theorem written (h : AllFollow cache sources s)
    (hdistinct : DistinctIds sources) (hsource : sources source) {content : ByteArray}
    {date : Time} {disk : Disk}
    (hclock : s.disk.clock < date) (hlatest : s.latest source ≤ date)
    (hwrite : WrittenAt source content date s.disk disk) :
    AllFollow cache sources ⟨disk, Function.update s.latest source date⟩ := by
  intro other otherId hother hotherView hapart
  change other.goal disk.here ≠ cache.artifactLocation otherId disk.here at hapart
  rw [hwrite.here] at hapart
  have hfollows := h other otherId hother hotherView hapart
  by_cases hsame : other = source
  · subst hsame
    change Follows cache other otherId (Function.update s.latest other date other) disk
    rw [Function.update_self]
    exact hfollows.written hapart hwrite hclock hlatest
  · change Follows cache other otherId (Function.update s.latest source date other) disk
    rw [Function.update_of_ne hsame]
    obtain ⟨directory, name, hd⟩ := hwrite.entry
    obtain ⟨viewId, hview⟩ := Path.viewId?_of_destination hd
    have hne : viewId ≠ otherId := by
      rintro rfl
      exact hsame (hdistinct other source viewId hother hsource hotherView hview)
    refine hfollows.of_keeps hwrite.here ?_ (Nat.le_refl _) (.inr (hwrite.others _ ?_))
      (.inr (hwrite.others _ ?_))
    · rw [hwrite.clock]
      exact Nat.le_succ _
    · exact fun heq ↦ hne (Path.viewId_unique hview hotherView heq.symm)
    · exact fun heq ↦ hne (viewId_eq_of_goal hview hotherView heq.symm)

/-- Whatever happens, the sources go on being followed. -/
theorem event (h : AllFollow cache sources s) (hdistinct : DistinctIds sources)
    (hevent : Event cache sources s s') : AllFollow cache sources s' := by
  cases hevent with
  | pause later hlater => exact h.of_keeps rfl hlater fun _ ↦ .inr (.inl rfl)
  | write source content date disk hsource hclock hlatest hrun =>
    obtain ⟨fault, hfailed⟩ | ⟨disk', hrun', hwrite⟩ := run_writeDated source content date s.disk
    · rw [hfailed] at hrun
      cases hrun
    · rw [hrun'] at hrun
      cases hrun
      exact h.written hdistinct hsource hclock hlatest hwrite
  | unwritten source content date fault disk hsource hrun =>
    obtain ⟨fault', hfailed⟩ | ⟨disk', hrun', -⟩ := run_writeDated source content date s.disk
    · rw [hfailed] at hrun
      cases hrun
      exact h
    · rw [hrun'] at hrun
      cases hrun
  | remove source hsource =>
    refine h.of_keeps ?_ ?_ (keeps_remove source s.disk)
    · rcases run_remove source s.disk with hrun | hrun
      · rw [hrun]
      · rw [hrun, here_touchDirectory]
        rfl
    · rcases run_remove source s.disk with hrun | hrun
      · exact Nat.le_of_eq (congrArg clock hrun.symm)
      · rw [hrun, clock_touchDirectory]
        exact Nat.le_succ _
  | refresh source hsource => exact h.refreshed hdistinct hsource
  | check source force hsource =>
    rcases ensureFresh_outcome cache source force s.disk with hrun | hrun
    · rw [hrun]
      exact h
    · rw [hrun]
      exact h.refreshed hdistinct hsource

end AllFollow

theorem AllFollow.read_of_fresh (h : AllFollow cache sources s) (hsource : sources source)
    (hview : source.viewId? = some viewId) (hfresh : cache.isStale source s.disk = .ok false) :
    ∃ content, s.disk.read source = .ok content ∧
      s.disk.read (cache.artifactPath viewId) = .ok content := by
  obtain ⟨node, node', hartifact, hstat, hnewer⟩ := stat_of_fresh hview hfresh
  have hnode := (stat_eq_ok hartifact).2
  have hnode' := (stat_eq_ok hstat).2
  rw [goal_artifactPath cache (Path.not_mem_of_viewId? hview)] at hnode
  have hapart : source.goal s.disk.here ≠ cache.artifactLocation viewId s.disk.here := by
    -- nothing is newer than itself
    intro heq
    rw [heq] at hnode'
    obtain rfl := Option.some.inj (hnode.symm.trans hnode')
    exact Nat.lt_irrefl _ hnewer
  obtain ⟨content, written, rfl, -, hcopy⟩ :=
    (h source viewId hsource hview hapart).copied node hnode
  obtain ⟨content', time, rfl, hsame⟩ := hcopy node' hnode'
  obtain rfl := hsame hnewer
  exact ⟨content', by rw [Disk.read, hstat], by rw [Disk.read, hartifact]⟩

/-- Where a source is followed, a check that succeeds has made sure of its artifact, and has left
those of other sources alone. -/
theorem AllFollow.ensureFresh (h : AllFollow cache sources s) (hsource : sources source)
    {force : Bool} {check : CacheCheck}
    (hrun : (cache.ensureFresh source force).run.run s.disk = (.ok check, disk')) :
    source.viewId? = some check.viewId ∧
      (∃ content, disk'.read source = .ok content ∧
        disk'.read (cache.artifactPath check.viewId) = .ok content) ∧
      ∀ (other : Path) (otherId : Text), other.viewId? = some otherId → otherId ≠ check.viewId →
        disk'.stat (cache.artifactPath otherId) = s.disk.stat (cache.artifactPath otherId) := by
  cases hview : source.viewId? with
  | none =>
    rw [ViewCache.ensureFresh, run_bind, run_ensureFreshWith_of_no_viewId hview] at hrun
    cases hrun
  | some viewId =>
    rw [run_ensureFresh hview] at hrun
    cases hstale : (if force = true then Except.ok true else cache.isStale source s.disk) with
    | error error =>
      rw [hstale] at hrun
      cases hrun
    | ok stale =>
      rw [hstale] at hrun
      cases stale with
      | true =>
        -- whatever there was before, a refresh has just copied the source
        obtain ⟨error, after, hrefresh, -⟩ |
          ⟨viewId', content, modified, hview', hstat, hartifact, hrefresh⟩ :=
            refresh_outcome cache source s.disk
        · rw [hrefresh] at hrun
          cases hrun
        · obtain rfl : viewId = viewId' := Option.some.inj (hview.symm.trans hview')
          rw [hrefresh] at hrun
          cases hrun
          obtain ⟨hread, hcopy, hothers⟩ := read_of_refresh hview hstat hartifact hrefresh
          exact ⟨rfl, ⟨content, hread, hcopy⟩, fun other otherId hother ↦
            hothers otherId (Path.not_mem_of_viewId? hother)⟩
      | false =>
        -- nothing is done, so the dates have to be right
        cases hrun
        have hfresh : cache.isStale source s.disk = .ok false := by
          cases force with
          | true => cases hstale
          | false => exact hstale
        exact ⟨rfl, h.read_of_fresh hsource hview hfresh, fun _ _ _ _ ↦ rfl⟩

/-- **Artifacts follow their sources.** In every state of every run that begins without artifacts,
in which the dates of a source never go back and no two sources share a view id: when a check
succeeds, forced or not, the artifact has exactly the bytes that the source has then, and the
artifact of no other source has changed. -/
theorem ensureFresh_follows (hdistinct : DistinctIds sources) (hstart : Begins cache sources start)
    (hrun : Relation.ReflTransGen (Event cache sources) start s) (hsource : sources source)
    {force : Bool} {check : CacheCheck}
    (hcheck : (cache.ensureFresh source force).run.run s.disk = (.ok check, disk')) :
    source.viewId? = some check.viewId ∧
      (∃ content, disk'.read source = .ok content ∧
        disk'.read (cache.artifactPath check.viewId) = .ok content) ∧
      ∀ (other : Path) (otherId : Text), other.viewId? = some otherId → otherId ≠ check.viewId →
        disk'.stat (cache.artifactPath otherId) = s.disk.stat (cache.artifactPath otherId) := by
  have hall : AllFollow cache sources s := by
    clear hcheck
    induction hrun with
    | refl => exact hstart.allFollow
    | tail _ hevent ih => exact ih.event hdistinct hevent
  exact hall.ensureFresh hsource hcheck

/-! ### A run

A source that is dated ahead is copied, and then another text is written to it with the same
date. -/

/-- The cache of these artifacts. -/
def mirrors : ViewCache := ⟨.ofString "/cache", .ofString "/out"⟩

/-- A source is dated ahead, and has no artifact. -/
def datedAhead : Dated where
  disk := {
    nodes := [(["cache".toList], .directory 1),
      (["home.html".toList], .file (encode "1".toList) 50)]
    clock := 10
    here := [] }
  latest _ := 50

def mirroredAhead : Dated :=
  { datedAhead with
    disk := ((mirrors.ensureFresh (.ofString "/home.html") false).run.run datedAhead.disk).2 }

def rewrittenAhead : Dated where
  disk := ((writeDated (.ofString "/home.html") (encode "2".toList) 50).run.run
    mirroredAhead.disk).2
  latest := Function.update mirroredAhead.latest (.ofString "/home.html") 50

theorem ensureFresh_follows_rewrittenAhead :
    ∃ check disk', (mirrors.ensureFresh (.ofString "/home.html") false).run.run rewrittenAhead.disk
        = (.ok check, disk') ∧
      disk'.read (mirrors.artifactPath "home".toList) = .ok (encode "2".toList) := by
  have hdistinct : DistinctIds (· = .ofString "/home.html") := by
    rintro _ _ _ rfl rfl _ _
    rfl
  have hempty : ∀ entry ∈ datedAhead.disk.nodes,
      ¬Location.Inside (mirrors.directory.goal []) entry.1 := by decide +kernel
  have hdates : ∀ entry ∈ datedAhead.disk.nodes, entry.2.modified ≤ 50 := by decide
  have hbegins : Begins mirrors (· = .ofString "/home.html") datedAhead := by
    refine ⟨fun source viewId _ _ ↦ node?_eq_none_of_nodes hempty ⟨?_, ?_⟩, ?_⟩
    · exact goal_prefix_artifactLocation ..
    · simp [artifactLocation, datedAhead]
    · rintro _ content time rfl hnode
      rcases mem_nodes_of_node? hnode with ⟨-, heq⟩ | hmem
      · cases heq
      · exact hdates _ hmem
  have hrun : Relation.ReflTransGen (Event mirrors (· = .ofString "/home.html")) datedAhead
      rewrittenAhead :=
    (Relation.ReflTransGen.single (.check _ _ false rfl)).tail
      (.write mirroredAhead _ _ 50 _ rfl (by decide +kernel) (by decide +kernel) rfl)
  obtain ⟨check, disk', hcheck⟩ : ∃ check disk',
      (mirrors.ensureFresh (.ofString "/home.html") false).run.run rewrittenAhead.disk
        = (.ok check, disk') := ⟨_, _, rfl⟩
  obtain ⟨hview, ⟨content, hread, hcopy⟩, -⟩ :=
    ensureFresh_follows hdistinct hbegins hrun rfl hcheck
  have hid : check.viewId = "home".toList := Option.some.inj (hview.symm.trans (by decide +kernel))
  have hsource : disk'.read (.ofString "/home.html") = .ok (encode "2".toList) := by
    rw [← show _ = disk' from congrArg Prod.snd hcheck]
    rfl
  refine ⟨check, disk', hcheck, ?_⟩
  rw [← hid, hcopy, ← hread, hsource]

end CompiledViews.ViewCache
