import CompiledViews.Proofs.ViewCache.Following
import Mathlib.Logic.Function.Iterate

/-!
# Dates of artifacts

A refresh dates the artifact by the clock, or like its source where the source is dated ahead. So
whenever a check succeeds, the artifact is not older than the source, and no check that is not
forced sets an artifact back: what is stale is older than its source or as old, and the new date is
not before the source's.

Right after a refresh, a source that was dated before the moment of writing counts as older than its
artifact. One that was dated at that moment or ahead of it has the same date as its artifact, and
equal dates count as expired, so every check refreshes until the source's date lies behind; each
time the artifact gets the same bytes. A source that is its own artifact gets the artifact's date
with every refresh and so always counts as expired.
-/

namespace CompiledViews.ViewCache

open Disk

variable {cache : ViewCache} {source : Path} {viewId : Text} {disk disk' : Disk}

/-! ## The dates after a refresh -/

/-- What a refresh leaves behind that has found a source with some bytes and a date, and has written
them at a moment of its own. -/
structure DatedCopy (cache : ViewCache) (source : Path) (viewId : Text) (disk after : Disk)
    (content : ByteArray) (modified written : Time) : Prop where
  /-- The source was a file with these bytes and this date. -/
  original : disk.stat source = .ok (.file content modified)
  /-- The clock has shown the moment of writing in the meantime. -/
  during : disk.clock < written ∧ written ≤ after.clock
  artifact : after.stat (cache.artifactPath viewId) = .ok (.file content (max written modified))
  /-- A source that is not its own artifact is left alone, and counts as older than its artifact
  just if it was dated before the moment of writing. -/
  apart : source.goal disk.here ≠ cache.artifactLocation viewId disk.here →
    after.stat source = .ok (.file content modified) ∧
      cache.isStale source after = .ok (decide (written ≤ modified))
  /-- A source that is its own artifact has got the artifact's date. -/
  own : source.goal disk.here = cache.artifactLocation viewId disk.here →
    after.stat source = .ok (.file content (max written modified))

theorem datedCopy_of_refresh (hview : source.viewId? = some viewId) {name : Text}
    (hrun : (cache.refresh source).run.run disk = (.ok name, disk')) :
    ∃ content modified written,
      DatedCopy cache source viewId disk disk' content modified written := by
  obtain ⟨error, after, hfailed, -⟩ | ⟨content, modified, hstat, hartifact, hrenewed⟩ :=
    refresh_cases cache hview disk
  · rw [hfailed] at hrun
    cases hrun
  · obtain ⟨-, rfl⟩ := Prod.mk.inj (hrenewed.symm.trans hrun)
    have hcopy := stat_artifact_renewed hview hartifact hrenewed
    have hsource := stat_source_renewed hstat hartifact
    refine ⟨content, modified, disk.clock + 1, hstat, ⟨Nat.lt_succ_self _, ?_⟩, hcopy, ?_, ?_⟩
    · rw [clock_renewed]
      exact Nat.le_succ _
    · intro hapart
      rw [if_neg hapart] at hsource
      refine ⟨hsource, ?_⟩
      rw [isStale_eq hview, hcopy, hsource]
      have hiff : max (disk.clock + 1) modified ≤ modified ↔ disk.clock + 1 ≤ modified :=
        Nat.max_le.trans (and_iff_left (Nat.le_refl _))
      exact congrArg Except.ok (decide_eq_decide.mpr hiff)
    · intro hown
      rwa [if_pos hown] at hsource

namespace DatedCopy

variable {content : ByteArray} {modified written : Time}

/-- The artifact is not older than the source, whether or not that is the artifact itself. -/
theorem not_older (h : DatedCopy cache source viewId disk disk' content modified written) :
    ∃ artifact template, disk'.stat (cache.artifactPath viewId) = .ok artifact ∧
      disk'.stat source = .ok template ∧ template.modified ≤ artifact.modified := by
  by_cases hown : source.goal disk.here = cache.artifactLocation viewId disk.here
  · exact ⟨_, _, h.artifact, h.own hown, Nat.le_refl _⟩
  · exact ⟨_, _, h.artifact, (h.apart hown).1, Nat.le_max_right _ _⟩

theorem read (h : DatedCopy cache source viewId disk disk' content modified written) :
    disk'.read source = .ok content ∧ disk'.read (cache.artifactPath viewId) = .ok content := by
  refine ⟨?_, read_eq_ok.mpr ⟨_, h.artifact⟩⟩
  by_cases hown : source.goal disk.here = cache.artifactLocation viewId disk.here
  · exact read_eq_ok.mpr ⟨_, h.own hown⟩
  · exact read_eq_ok.mpr ⟨_, (h.apart hown).1⟩

end DatedCopy

/-! ## Refreshing again -/

/-- Where the artifact has the bytes of its source, a refresh succeeds and leaves it so. -/
theorem refresh_again (hview : source.viewId? = some viewId) {content : ByteArray}
    (hsource : disk.read source = .ok content)
    (hartifact : disk.read (cache.artifactPath viewId) = .ok content) :
    ((cache.refresh source).run.run disk).1 = .ok (renderName viewId) ∧
      ((cache.refresh source).run.run disk).2.read source = .ok content ∧
      ((cache.refresh source).run.run disk).2.read (cache.artifactPath viewId) = .ok content := by
  obtain ⟨modified, hsource⟩ := read_eq_ok.mp hsource
  obtain ⟨date, hartifact⟩ := read_eq_ok.mp hartifact
  have hput := putArtifact_of_stat (Path.not_mem_of_viewId? hview) hartifact content modified
  have hrun : (cache.refresh source).run.run disk
      = (.ok (renderName viewId), cache.renewed viewId content modified disk) := by
    rw [run_refresh hview, hsource]
    exact hput
  obtain ⟨found, modified', written, hcopy⟩ := datedCopy_of_refresh hview hrun
  cases hcopy.original.symm.trans hsource
  rw [hrun]
  exact ⟨rfl, hcopy.read⟩

/-- The disk after a source has been refreshed some number of times more. -/
def refreshes (cache : ViewCache) (source : Path) (times : Nat) (disk : Disk) : Disk :=
  (fun d ↦ ((cache.refresh source).run.run d).2)^[times] disk

theorem read_refreshes (hview : source.viewId? = some viewId) {content : ByteArray}
    (hsource : disk.read source = .ok content)
    (hartifact : disk.read (cache.artifactPath viewId) = .ok content) (times : Nat) :
    (cache.refreshes source times disk).read source = .ok content ∧
      (cache.refreshes source times disk).read (cache.artifactPath viewId) = .ok content := by
  induction times with
  | zero => exact ⟨hsource, hartifact⟩
  | succ times ih =>
    rw [refreshes, Function.iterate_succ_apply']
    exact (refresh_again hview ih.1 ih.2).2

/-! ## Checks -/

/-- A check fails and at most reads the clock, or finds the artifact fresh and does nothing, or
refreshes it. -/
theorem ensureFresh_cases (cache : ViewCache) (source : Path) (force : Bool) (disk : Disk) :
    (∃ error after, (cache.ensureFresh source force).run.run disk = (.error error, after) ∧
      (after = disk ∨ after = disk.tick)) ∨
    (∃ viewId, source.viewId? = some viewId ∧ cache.isStale source disk = .ok false ∧
      (cache.ensureFresh source force).run.run disk
        = (.ok ⟨viewId, renderName viewId, false⟩, disk)) ∨
    ∃ viewId name after, source.viewId? = some viewId ∧
      (force = true ∨ cache.isStale source disk = .ok true) ∧
      (cache.refresh source).run.run disk = (.ok name, after) ∧
      (cache.ensureFresh source force).run.run disk
        = (.ok ⟨viewId, renderName viewId, true⟩, after) := by
  cases hview : source.viewId? with
  | none =>
    refine .inl ⟨.noViewId source, disk, ?_, .inl rfl⟩
    rw [ensureFresh, run_bind, run_ensureFreshWith_of_no_viewId hview]
  | some viewId =>
    rw [run_ensureFresh hview]
    rcases hstale : (if force = true then Except.ok true else cache.isStale source disk) with
      error | _ | _
    · exact .inl ⟨error, disk, rfl, .inl rfl⟩
    · cases force with
      | false => exact .inr (.inl ⟨viewId, rfl, hstale, rfl⟩)
      | true => cases hstale
    · have hreason : force = true ∨ cache.isStale source disk = .ok true := by
        cases force with
        | false => exact .inr hstale
        | true => exact .inl rfl
      obtain ⟨error, after, hrun, hafter⟩ | ⟨content, modified, -, -, hrun⟩ :=
        refresh_cases cache hview disk
      · exact .inl ⟨error, after, by rw [hrun], hafter⟩
      · exact .inr (.inr ⟨viewId, _, _, rfl, hreason, hrun, by rw [hrun]⟩)

theorem stat_of_stale (hview : source.viewId? = some viewId)
    (hstale : cache.isStale source disk = .ok true) {artifact : Node}
    (hartifact : disk.stat (cache.artifactPath viewId) = .ok artifact) :
    ∃ template, disk.stat source = .ok template ∧ artifact.modified ≤ template.modified := by
  rw [isStale_eq hview, hartifact] at hstale
  dsimp only at hstale
  split at hstale
  · next template hsource =>
    rw [Except.ok.injEq, decide_eq_true_iff] at hstale
    exact ⟨template, hsource, hstale⟩
  · cases hstale

/-- Whatever comes of a check that is not forced, the artifact has not been set back. -/
theorem ensureFresh_not_earlier (hview : source.viewId? = some viewId) {artifact : Node}
    (hartifact : disk.stat (cache.artifactPath viewId) = .ok artifact) :
    ∃ artifact', ((cache.ensureFresh source false).run.run disk).2.stat (cache.artifactPath viewId)
      = .ok artifact' ∧ artifact.modified ≤ artifact'.modified := by
  obtain ⟨error, after, hrun, rfl | rfl⟩ | ⟨_, -, -, hrun⟩ |
    ⟨viewId', name, after, hview', hreason, hrefresh, hrun⟩ :=
      ensureFresh_cases cache source false disk
  · rw [hrun]
    exact ⟨artifact, hartifact, Nat.le_refl _⟩
  · rw [hrun]
    have htick : disk.tick.stat (cache.artifactPath viewId)
        = disk.stat (cache.artifactPath viewId) :=
      stat_congr rfl (fun _ _ ↦ rfl) rfl
    exact ⟨artifact, htick.trans hartifact, Nat.le_refl _⟩
  · rw [hrun]
    exact ⟨artifact, hartifact, Nat.le_refl _⟩
  · obtain rfl := Option.some.inj (hview.symm.trans hview')
    obtain ⟨content, modified, written, hcopy⟩ := datedCopy_of_refresh hview hrefresh
    obtain ⟨template, hsource, hle⟩ := stat_of_stale hview (by simpa using hreason) hartifact
    obtain rfl := Except.ok.inj (hsource.symm.trans hcopy.original)
    rw [hrun]
    exact ⟨_, hcopy.artifact, Nat.le_trans hle (Nat.le_max_right _ _)⟩

/-- **Artifacts are dated right.** For every source, every disk and every clock:

* when a check succeeds, forced or not, the artifact is there and is not older than the source. The
  check has done nothing at all, or it has refreshed the artifact, which is then dated by the moment
  of writing or like the source, whichever is later; and a source that is not its own artifact
  counts as older from then on just if it was dated before that moment;
* a check that is not forced, succeed or fail, never sets the artifact back;
* after a refresh that has succeeded, the same source may be refreshed any number of times: that
  succeeds, and the artifact has the same bytes. So it has at any later time, if the source reads as
  it did. -/
theorem ensureFresh_dates (cache : ViewCache) (source : Path) (disk : Disk) :
    (∀ force check after,
      (cache.ensureFresh source force).run.run disk = (.ok check, after) →
        source.viewId? = some check.viewId ∧
        (∃ artifact template, after.stat (cache.artifactPath check.viewId) = .ok artifact ∧
          after.stat source = .ok template ∧ template.modified ≤ artifact.modified) ∧
        (check.refreshed = false → after = disk) ∧
        (check.refreshed = true → ∃ content modified written,
          DatedCopy cache source check.viewId disk after content modified written)) ∧
    (∀ viewId artifact, source.viewId? = some viewId →
      disk.stat (cache.artifactPath viewId) = .ok artifact →
        ∃ artifact',
          ((cache.ensureFresh source false).run.run disk).2.stat (cache.artifactPath viewId)
            = .ok artifact' ∧ artifact.modified ≤ artifact'.modified) ∧
    ∀ viewId name after, source.viewId? = some viewId →
      (cache.refresh source).run.run disk = (.ok name, after) →
        (∀ times,
          ((cache.refresh source).run.run (cache.refreshes source times after)).1.isOk = true ∧
          (cache.refreshes source times after).read (cache.artifactPath viewId)
            = after.read (cache.artifactPath viewId)) ∧
        ∀ later name' after', later.read source = disk.read source →
          (cache.refresh source).run.run later = (.ok name', after') →
            after'.read (cache.artifactPath viewId) = after.read (cache.artifactPath viewId) := by
  refine ⟨fun force check after hrun ↦ ?_, fun viewId artifact hview ↦
    ensureFresh_not_earlier hview, fun viewId name after hview hrun ↦ ?_⟩
  · obtain ⟨error, after', hrun', -⟩ | ⟨viewId, hview, hfresh, hrun'⟩ |
      ⟨viewId, name, after', hview, -, hrefresh, hrun'⟩ := ensureFresh_cases cache source force disk
    · rw [hrun'] at hrun
      cases hrun
    · rw [hrun'] at hrun
      cases hrun
      obtain ⟨artifact, template, hartifact, hsource, hnewer⟩ := stat_of_fresh hview hfresh
      exact ⟨hview, ⟨artifact, template, hartifact, hsource, Nat.le_of_lt hnewer⟩, fun _ ↦ rfl,
        fun h ↦ (nomatch h)⟩
    · rw [hrun'] at hrun
      cases hrun
      obtain ⟨content, modified, written, hcopy⟩ := datedCopy_of_refresh hview hrefresh
      exact ⟨hview, hcopy.not_older, fun h ↦ (nomatch h), fun _ ↦ ⟨_, _, _, hcopy⟩⟩
  · obtain ⟨content, modified, written, hcopy⟩ := datedCopy_of_refresh hview hrun
    obtain ⟨hsource, hartifact⟩ := hcopy.read
    refine ⟨fun times ↦ ?_, fun later name' after' hsame hrun' ↦ ?_⟩
    · obtain ⟨hsource', hartifact'⟩ := read_refreshes hview hsource hartifact times
      refine ⟨?_, hartifact'.trans hartifact.symm⟩
      rw [(refresh_again hview hsource' hartifact').1]
      rfl
    · obtain ⟨content', modified', written', hcopy'⟩ := datedCopy_of_refresh hview hrun'
      rw [read_eq_ok.mpr ⟨_, hcopy.original⟩, read_eq_ok.mpr ⟨_, hcopy'.original⟩] at hsame
      obtain rfl := Except.ok.inj hsame
      rw [hcopy'.read.2, hartifact]

/-- A source that is dated ahead gives its date to the artifact, and still counts as changed. -/
theorem ensureFresh_dates_datedAhead :
    ∃ check after,
      (mirrors.ensureFresh (.ofString "/home.html") false).run.run datedAhead.disk
        = (.ok check, after) ∧
      after.stat (mirrors.artifactPath "home".toList) = .ok (.file (encode "1".toList) 50) ∧
      mirrors.isStale (.ofString "/home.html") after = .ok true := by
  obtain ⟨check, after, hrun⟩ : ∃ check after,
      (mirrors.ensureFresh (.ofString "/home.html") false).run.run datedAhead.disk
        = (.ok check, after) := ⟨_, _, rfl⟩
  have hrefreshed : check.refreshed = true := by
    cases hrun
    rfl
  have hclock : after.clock ≤ 50 := by
    rw [← show _ = after from congrArg Prod.snd hrun]
    decide +kernel
  obtain ⟨hview, -, -, hcopied⟩ :=
    (ensureFresh_dates mirrors (.ofString "/home.html") datedAhead.disk).1 false check after hrun
  obtain ⟨content, modified, written, hcopy⟩ := hcopied hrefreshed
  have hid : check.viewId = "home".toList :=
    Option.some.inj (hview.symm.trans (by decide +kernel))
  have hsource : datedAhead.disk.stat (.ofString "/home.html")
      = .ok (.file (encode "1".toList) 50) := rfl
  cases hcopy.original.symm.trans hsource
  have hwritten : written ≤ 50 := Nat.le_trans hcopy.during.2 hclock
  have hapart : (Path.ofString "/home.html").goal datedAhead.disk.here
      ≠ mirrors.artifactLocation check.viewId datedAhead.disk.here := by
    rw [hid]
    decide +kernel
  refine ⟨check, after, hrun, ?_, ?_⟩
  · rw [← hid, hcopy.artifact, Nat.max_eq_right hwritten]
  · rw [(hcopy.apart hapart).2, decide_eq_true hwritten]

end CompiledViews.ViewCache
