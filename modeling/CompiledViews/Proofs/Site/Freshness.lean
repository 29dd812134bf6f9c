import CompiledViews.Proofs.Site.Run
import CompiledViews.Proofs.ViewEngine.Transparency

/-!
# Unforced requests are as good as forced ones

As long as edits are dated by the clock, and no two of the candidates share a view id, nothing is
gained by making artifacts again on every request: at every moment of every run, an unforced request
gets what a forced one would get then, whichever requests have failed meanwhile.

Four layers have to agree for that. An artifact has the bytes of its source whenever it is newer, so
a check that leaves it alone does no harm. Whenever it is renewed, outputs are declared to be out of
date, and to the engine the renewal is an edit like any other; so what the engine remembers stays
true. And no date of a source or of an output is later than the clock.

There is one thing that a check finds out and a renewal may not come to: that the artifact's own
path cannot be looked up, because it is too long or because something is in the way. Then both fail,
but the one that is forced may have found fault with the source before.
-/

namespace CompiledViews

open Template (Extensions)
open Disk

namespace Site

/-- Whether the artifacts of the candidates are true copies, as far as checks go by them. -/
structure Mirrors (site : Site ViewEngine) (asked : Text → Prop) (disk : Disk) : Prop where
  /-- An artifact has the bytes of its source if the source is older. -/
  copied : ∀ candidate viewId node, asked candidate → Path.viewId? ⟨candidate⟩ = some viewId →
    disk.node? (site.cache.artifactLocation viewId disk.here) = some node →
      ∃ content written, node = .file content written ∧ written ≤ disk.clock ∧
        ∀ source, disk.node? (Path.goal ⟨candidate⟩ disk.here) = some source →
          source.modified < written → ∃ time, source = .file content time
  /-- No source is dated ahead. -/
  dated : ∀ candidate source, asked candidate →
    disk.node? (Path.goal ⟨candidate⟩ disk.here) = some source → source.modified ≤ disk.clock

/-- Whether the candidates lie outside of the directory of artifacts and none shares a view id with
another one. -/
structure Distinct (site : Site ViewEngine) (asked : Text → Prop) (here : Location) : Prop where
  outside : ∀ candidate, asked candidate →
    ¬site.cache.directory.goal here <+: Path.goal ⟨candidate⟩ here
  viewIds : ∀ candidate other viewId, asked candidate → asked other →
    Path.viewId? ⟨candidate⟩ = some viewId → Path.viewId? ⟨other⟩ = some viewId →
      Path.goal ⟨candidate⟩ here = Path.goal ⟨other⟩ here

variable {site : Site ViewEngine} {directories : Directories} {plain : PlainEngine}
  {here : Location} {moment moment' : Moment ViewEngine} {asked : Text → Prop}
  {disk disk' : Disk}

theorem Distinct.single {candidate : Text}
    (h : ¬site.cache.directory.goal here <+: Path.goal ⟨candidate⟩ here) :
    site.Distinct (· = candidate) here where
  outside := by
    rintro _ rfl
    exact h
  viewIds := by
    rintro _ _ _ rfl rfl _ _
    rfl

namespace Mirrors

/-- Artifacts stay true copies when the locations of sources get nodes that are new. -/
theorem of_newer (h : Mirrors site asked disk) (hhere : disk'.here = disk.here)
    (hclock : disk.clock ≤ disk'.clock)
    (hartifact : ∀ viewId, disk'.node? (site.cache.artifactLocation viewId disk.here)
      = disk.node? (site.cache.artifactLocation viewId disk.here))
    (hsource : ∀ candidate, asked candidate →
      disk'.node? (Path.goal ⟨candidate⟩ disk.here) = disk.node? (Path.goal ⟨candidate⟩ disk.here) ∨
        ∀ source, disk'.node? (Path.goal ⟨candidate⟩ disk.here) = some source →
          disk.clock < source.modified ∧ source.modified ≤ disk'.clock) :
    Mirrors site asked disk' where
  copied := by
    intro candidate viewId node hasked hview hnode
    rw [hhere, hartifact] at hnode
    obtain ⟨content, written, rfl, hwritten, hcopy⟩ :=
      h.copied candidate viewId node hasked hview hnode
    refine ⟨content, written, rfl, Nat.le_trans hwritten hclock, fun source hnew holder ↦ ?_⟩
    rw [hhere] at hnew
    rcases hsource candidate hasked with hkept | hlater
    · exact hcopy source (hkept.symm.trans hnew) holder
    · have hdate := (hlater source hnew).1
      exact absurd (Nat.lt_trans hdate holder) (Nat.not_lt_of_le hwritten)
  dated := by
    intro candidate source hasked hnew
    rw [hhere] at hnew
    rcases hsource candidate hasked with hkept | hlater
    · exact Nat.le_trans (h.dated candidate source hasked (hkept.symm.trans hnew)) hclock
    · exact (hlater source hnew).2

theorem served (h : Mirrors site asked moment.disk) (hfits : site.Fits directories here)
    (htended : Tended directories plain here moment) (hserved : Served moment moment') :
    Mirrors site asked moment'.disk := by
  refine h.of_newer hserved.loads.grows.here hserved.loads.grows.clock (fun viewId ↦ ?_) fun _ _ ↦
    hserved.loads.grows.kept_or_newer _
  refine hserved.loads.views (htended.apart hfits) ?_
  rw [htended.views, ViewCache.artifactLocation, hfits.directory, directories.goal_viewCache,
    List.append_assoc]
  exact List.prefix_append _ _

theorem tick (h : Mirrors site asked disk) : Mirrors site asked disk.tick :=
  h.of_newer rfl (Nat.le_succ _) (fun _ ↦ rfl) fun _ _ ↦ .inl rfl

theorem renewed (h : Mirrors site asked disk) (hdistinct : site.Distinct asked disk.here)
    {candidate viewId : Text} {content : ByteArray} {modified : Time} (hasked : asked candidate)
    (hview : Path.viewId? ⟨candidate⟩ = some viewId)
    (hstat : disk.stat ⟨candidate⟩ = .ok (.file content modified)) :
    Mirrors site asked (site.cache.renewed viewId content modified disk) := by
  have hhere := ViewCache.here_renewed site.cache viewId content modified disk
  have hclock := ViewCache.clock_renewed site.cache viewId content modified disk
  have hfile := (stat_eq_ok hstat).2
  have hmodified : modified ≤ disk.clock := h.dated candidate _ hasked hfile
  have hsource : ∀ other, asked other →
      (site.cache.renewed viewId content modified disk).node? (Path.goal ⟨other⟩ disk.here)
        = disk.node? (Path.goal ⟨other⟩ disk.here) := fun other hother ↦
    ViewCache.node?_renewed_of_not_prefix content modified (hdistinct.outside other hother)
  refine ⟨fun other otherId node hother hotherView hnode ↦ ?_, fun other source hother hnode ↦ ?_⟩
  · rw [hhere] at hnode
    rw [hhere, hsource other hother, hclock]
    by_cases hsame : otherId = viewId
    · subst hsame
      rw [ViewCache.node?_renewed_self] at hnode
      obtain rfl := Option.some.inj hnode
      refine ⟨content, _, rfl, ?_, fun source hnode _ ↦ ?_⟩
      · exact Nat.max_le.mpr ⟨Nat.le_succ _, Nat.le_add_right_of_le hmodified⟩
      · -- the candidate with this view id has the very source that was copied
        rw [hdistinct.viewIds other candidate otherId hother hasked hotherView hview,
          hfile] at hnode
        exact ⟨modified, (Option.some.inj hnode).symm⟩
    · rw [ViewCache.node?_renewed_of_ne hsame] at hnode
      obtain ⟨old, written, rfl, hwritten, hcopy⟩ :=
        h.copied other otherId node hother hotherView hnode
      exact ⟨old, written, rfl, Nat.le_add_right_of_le hwritten, hcopy⟩
  · rw [hhere, hsource other hother] at hnode
    rw [hclock]
    exact Nat.le_add_right_of_le (h.dated other source hother hnode)

theorem edited (h : Mirrors site asked disk) {own watched : Location → Prop}
    {taken : Location → Time → Prop} (hedit : disk.Edited own watched taken disk')
    (hown : ∀ l, site.cache.directory.goal disk.here <+: l → own l)
    (hwatched : ∀ candidate, asked candidate → watched (Path.goal ⟨candidate⟩ disk.here)) :
    Mirrors site asked disk' := by
  refine h.of_newer hedit.here hedit.clock (fun viewId ↦ ?_) fun candidate hasked ↦ ?_
  · exact hedit.own _ (hown _ (site.cache.goal_prefix_artifactLocation viewId disk.here))
  · refine (hedit.watched _ (hwatched candidate hasked)).imp_right fun hnew source hnode ↦ ?_
    exact ⟨(hnew source hnode).1, (hnew source hnode).2.1⟩

end Mirrors

/-- To the engine, a renewal is an edit of views like any other. -/
theorem edited_renewed (hfits : site.Fits directories disk.here) (viewId : Text)
    (content : ByteArray) {modified : Time} (hmodified : modified ≤ disk.clock) :
    disk.Edited (directories.outputs.goal disk.here <+: ·) (directories.views.goal disk.here <+: ·)
      (fun _ _ ↦ False) (site.cache.renewed viewId content modified disk) where
  here := ViewCache.here_renewed ..
  clock := by
    rw [ViewCache.clock_renewed]
    exact Nat.le_add_right _ 2
  own l hl := ViewCache.node?_renewed_of_not_prefix content modified (hfits.clear hl)
  watched := by
    intro l _
    rw [ViewCache.clock_renewed]
    have hnew : ∀ new : Node, disk.clock < new.modified → new.modified ≤ disk.clock + 2 →
        ∀ node, some new = some node →
          disk.clock < node.modified ∧ node.modified ≤ disk.clock + 2 ∧ ¬False := by
      rintro new hsince huntil _ ⟨⟩
      exact ⟨hsince, huntil, not_false⟩
    rcases ViewCache.node?_renewed site.cache viewId content modified disk l with
      ⟨-, hnode⟩ | ⟨-, -, hnode⟩ | ⟨-, hkept⟩
    · rw [hnode]
      refine .inr (hnew _ (Nat.lt_of_lt_of_le (Nat.lt_succ_self _) (Nat.le_max_left _ _)) ?_)
      exact Nat.max_le.mpr ⟨Nat.le_succ _, Nat.le_add_right_of_le hmodified⟩
    · rw [hnode]
      exact .inr (hnew _ (Nat.lt_add_of_pos_right Nat.two_pos) (Nat.le_refl _))
    · exact .inl hkept

/-! ## The invariant -/

/-- What others may do to the disk of a site: anything but to touch artifacts and outputs, as long
as views and sources are dated by the clock. -/
def Stamps (directories : Directories) (asked : Text → Prop) (disk disk' : Disk) : Prop :=
  disk.Edited
    (fun l ↦ directories.viewCache.goal disk.here <+: l ∨ directories.outputs.goal disk.here <+: l)
    (fun l ↦ directories.views.goal disk.here <+: l ∨
      ∃ candidate, asked candidate ∧ l = Path.goal ⟨candidate⟩ disk.here)
    (fun _ _ ↦ False) disk'

/-- What is true of a site in the course of such a run: what the engine remembers may be used, and
artifacts are true copies. -/
structure Coherent (site : Site ViewEngine) (directories : Directories) (asked : Text → Prop)
    (plain : PlainEngine) (here : Location) (moment : Moment ViewEngine) : Prop where
  tended : Tended directories plain here moment
  sound : EngineState.Sound (fun _ _ ↦ False)
    ⟨moment.state.engine, moment.disk, moment.state.capabilities, false⟩
  mirrors : Mirrors site asked moment.disk

namespace Coherent

theorem start (plan : SitePlan) (f : Extensions → Extensions) (hooks : Hooks) (host : Host)
    (hapart : plan.settings.directories.views.Apart plan.settings.directories.outputs disk.here)
    (hdated : ∀ entry ∈ disk.nodes, entry.2.modified ≤ disk.clock)
    (hmirrors : ∀ l, Location.Inside (plan.settings.directories.viewCache.goal disk.here) l →
      disk.node? l = none) :
    Coherent (plan.launched hooks) plan.settings.directories asked (plan.plain f) disk.here
      ⟨plan.start (plan.fresh f disk.clock) host, disk⟩ where
  tended := tended_start plan f host
    (fun _ _ _ _ hfile ↦ modified_le_of_nodes hdated hfile) plan.capabilities
  sound :=
    { apart := hapart
      faithful := fun _ _ ↦ .of_expired rfl fun _ _ _ _ hfile ↦ modified_le_of_nodes hdated hfile
      written := fun _ _ _ _ hfile ↦ modified_le_of_nodes hdated hfile
      dated := fun _ _ _ hnode ↦ .inl (modified_le_of_nodes hdated hnode)
      noted := fun _ _ hsource ↦ (nomatch hsource) }
  mirrors :=
    { copied := by
        intro _ viewId node _ _ hnode
        have hinside : Location.Inside (plan.settings.directories.viewCache.goal disk.here)
            (plan.cache.artifactLocation viewId disk.here) :=
          ⟨plan.cache.goal_prefix_artifactLocation viewId disk.here, by
            simp [ViewCache.artifactLocation, SitePlan.cache]⟩
        exact absurd ((hmirrors _ hinside).symm.trans hnode) (by simp)
      dated := fun _ _ _ hnode ↦ modified_le_of_nodes hdated hnode }

theorem move (h : Coherent site directories asked plain here moment)
    (hfits : site.Fits directories here) (hdistinct : site.Distinct asked here)
    (hmove : Move site asked (Stamps directories asked) False moment moment') :
    Coherent site directories asked plain here moment' := by
  have htended : Tended directories plain here moment' := by
    refine h.tended.move hfits (fun disk disk' hedit hhere ↦ ?_) hmove
    rw [← hhere]
    exact (hedit.mono (fun _ hl ↦ .inr hl) fun _ hl ↦ hl).spares.unwritten
  have hhere := h.tended.here
  cases hmove with
  | served _ hserved =>
    refine ⟨htended, ?_, h.mirrors.served hfits h.tended hserved⟩
    rw [hserved.capabilities]
    exact h.sound.of_loads hserved.loads fun _ name ↦
      hserved.faithful name (h.sound.faithful rfl name)
  | waited => exact ⟨htended, h.sound.edit (.tick _), h.mirrors.tick⟩
  | renewed candidate viewId content modified hasked hview hstat =>
    rw [← hhere] at hfits hdistinct
    have hmodified := h.mirrors.dated candidate _ hasked (stat_eq_ok hstat).2
    have hedit := edited_renewed hfits viewId content hmodified
    rw [← h.tended.outputs, ← h.tended.views] at hedit
    exact ⟨htended, (h.sound.edit hedit).invalidate,
      (h.mirrors.renewed hdistinct hasked hview hstat).tick⟩
  | host => exact ⟨htended, h.sound, h.mirrors⟩
  | switched _ hfalse => exact hfalse.elim
  | edited disk hedit =>
    have hedit' := hedit.mono (fun l hl ↦ Or.inr hl) (fun l hl ↦ Or.inl hl)
    rw [← h.tended.outputs, ← h.tended.views] at hedit'
    refine ⟨htended, h.sound.edit hedit', h.mirrors.edited hedit (fun l hl ↦ ?_) fun c hc ↦ ?_⟩
    · rw [hfits.directory] at hl
      exact .inl hl
    · exact .inr ⟨c, hc, rfl⟩

end Coherent

theorem coherent_of_run {start : Moment ViewEngine} (hfits : site.Fits directories here)
    (hdistinct : site.Distinct asked here)
    (hstart : Coherent site directories asked plain here start)
    (hrun : Relation.ReflTransGen (Step site asked (Stamps directories asked) False) start moment) :
    Coherent site directories asked plain here moment :=
  run_induction hfits (fun _ h ↦ h.tended) (fun _ _ h hmove ↦ h.move hfits hdistinct hmove) hstart
    hrun

/-! ## Checks that leave an artifact alone -/

/-- What comes of a check that makes an artifact again in any case, where an unforced check leaves
it alone: the same, but for dates. -/
theorem check_of_fresh (hmirrors : Mirrors site asked disk) {candidate viewId : Text}
    (hasked : asked candidate) (hview : Path.viewId? ⟨candidate⟩ = some viewId)
    (hstale : site.cache.isStale ⟨candidate⟩ disk = .ok false) :
    ∃ after, (site.forced true).check candidate disk
        = (.ok ⟨viewId, renderName viewId, true⟩, after) ∧
      disk.Alike (fun _ ↦ False) after := by
  have hslash := Path.not_mem_of_viewId? hview
  rw [ViewCache.isStale_eq hview] at hstale
  split at hstale
  · next node hartifact =>
    split at hstale
    · next source hsource =>
      have holder : source.modified < node.modified := by
        simpa using hstale
      have hgoal := (stat_eq_ok hartifact).2
      rw [ViewCache.goal_artifactPath _ hslash] at hgoal
      obtain ⟨content, written, rfl, -, hcopy⟩ :=
        hmirrors.copied candidate viewId node hasked hview hgoal
      -- the source is older, so it is still the one that the artifact was copied from
      obtain ⟨time, rfl⟩ := hcopy source (stat_eq_ok hsource).2 holder
      refine ⟨(site.cache.renewed viewId content time disk).tick, ?_, ?_, fun l _ ↦ ?_⟩
      · rw [check_eq _ hview, isDue_forced]
        dsimp only
        rw [ViewCache.run_refresh hview, show (site.forced true).cache = site.cache from rfl,
          hsource]
        dsimp only
        rw [ViewCache.putArtifact_of_stat hslash hartifact]
      · exact ViewCache.here_renewed ..
      · by_cases heq : l = site.cache.artifactLocation viewId disk.here
        · have hsame : disk.sight (site.cache.artifactLocation viewId disk.here)
              = some (some content) := by
            rw [sight, ViewCache.artifactLocation, hgoal]
            rfl
          rw [heq, hsame]
          exact ViewCache.sight_renewed_self content time disk
        · exact ViewCache.sight_renewed content time heq
    · cases hstale
  · cases hstale
  · cases hstale

/-- Where artifacts are true copies, nothing is gained by making them again. -/
theorem plainResponse_unforced (hmirrors : Mirrors site asked disk)
    (hcontrollers : site.controllers.Overlooks (fun _ ↦ False) disk.here)
    {available : Capabilities} {host : Host} {candidate : Text} (hasked : asked candidate) :
    (site.forced false).plainResponse plain available host candidate disk
        = (site.forced true).plainResponse plain available host candidate disk ∨
    ∃ viewId fault error, Path.viewId? ⟨candidate⟩ = some viewId ∧
      disk.stat (site.cache.artifactPath viewId) = .error fault ∧ fault ≠ .notFound ∧
      (site.forced false).plainResponse plain available host candidate disk
        = ⟨.error (.cache (.io (site.cache.artifactPath viewId) fault)), []⟩ ∧
      (site.forced true).plainResponse plain available host candidate disk
        = ⟨.error (.cache error), []⟩ := by
  by_cases haccepts : site.accepts host candidate = true
  · rw [plainResponse_of_accepts (site.forced false) haccepts,
      plainResponse_of_accepts (site.forced true) haccepts]
    cases hview : Path.viewId? ⟨candidate⟩ with
    | none => exact .inl (by rw [check_of_no_viewId _ hview, check_of_no_viewId _ hview])
    | some viewId =>
      have hsame : (site.forced false).isDue candidate disk = .ok true →
          (site.forced false).check candidate disk = (site.forced true).check candidate disk := by
        intro hdue
        rw [check_eq _ hview, check_eq _ hview, hdue, isDue_forced]
        rfl
      by_cases hhook : site.hooks.force ⟨candidate⟩ = true
      · rw [hsame (if_pos hhook)]
        exact .inl rfl
      · have hdue :
            (site.forced false).isDue candidate disk = site.cache.isStale ⟨candidate⟩ disk :=
          if_neg hhook
        have hcheck := check_eq (site.forced false) hview disk
        rw [hdue] at hcheck hsame
        rcases hstale : site.cache.isStale ⟨candidate⟩ disk with error | _ | _
        · rw [hstale] at hcheck
          rw [hcheck]
          rcases check_of_fault site hview hstale with
            ⟨after, hforce⟩ | ⟨fault, error', after, hstat, hfault, rfl, hforce⟩
          · rw [hforce]
            exact .inl rfl
          · rw [hforce]
            exact .inr ⟨viewId, fault, error', rfl, hstat, hfault, rfl, rfl⟩
        · -- the forced check writes the same bytes again, and dates do not matter to a page
          obtain ⟨after, hforce, halike⟩ := check_of_fresh hmirrors hasked hview hstale
          rw [hstale] at hcheck
          rw [hcheck, hforce]
          have hpage : site.plainPage plain available viewId after
              = site.plainPage plain available viewId disk :=
            plainPage_alike halike hcontrollers (fun _ _ ↦ not_false) viewId
          exact .inl (congrArg host.respond hpage.symm)
        · rw [hsame hstale]
          exact .inl rfl
  · exact .inl ((if_neg haccepts).trans (if_neg haccepts).symm)

/-- Where the engine remembers nothing false, a site that forces and one that does not both get what
they would get without memory. -/
theorem Coherent.response_eq_plain (h : Coherent site directories asked plain here moment)
    (hfits : site.Fits directories here) (force : Bool) (candidate : Text) :
    (site.forced force).response candidate moment
      = (site.forced force).plainResponse plain moment.state.capabilities moment.state.host
          candidate moment.disk :=
  response_eq_plain_of_faithful (hfits.forced force) h.tended (h.sound.faithful rfl) candidate

end Site

/-- **Forcing gains nothing.** At every moment of every run in which artifacts and outputs are left
alone and edits are dated by the clock, an unforced request gets what a forced one would get, unless
the path of the artifact itself is at fault: then neither gets a page, and only the errors may
differ. -/
theorem unforced_response_eq_forced {plan : SitePlan} {f : Extensions → Extensions} {hooks : Hooks}
    {host : Host} {before disk : Disk} {site : Site ViewEngine} {state : SiteState ViewEngine}
    {asked : Text → Prop} {moment : Moment ViewEngine} {candidate : Text}
    (hlaunch : (plan.launch f hooks host).run.run before = (.ok (site, state), disk))
    (hapart : plan.settings.directories.views.Apart plan.settings.directories.outputs disk.here)
    (hdated : ∀ entry ∈ disk.nodes, entry.2.modified ≤ disk.clock)
    (hmirrors : ∀ l, Location.Inside (plan.settings.directories.viewCache.goal disk.here) l →
      disk.node? l = none)
    (hdistinct : site.Distinct asked disk.here)
    (hcontrollers : site.controllers.Overlooks (fun _ ↦ False) disk.here)
    (hrun : Relation.ReflTransGen
      (Site.Step site asked (Site.Stamps plan.settings.directories asked) False)
      ⟨state, disk⟩ moment)
    (hasked : asked candidate) :
    (site.forced false).response candidate moment = (site.forced true).response candidate moment ∨
    ∃ viewId fault error, Path.viewId? ⟨candidate⟩ = some viewId ∧
      moment.disk.stat (site.cache.artifactPath viewId) = .error fault ∧ fault ≠ .notFound ∧
      (site.forced false).response candidate moment
        = ⟨.error (.cache (.io (site.cache.artifactPath viewId) fault)), []⟩ ∧
      (site.forced true).response candidate moment = ⟨.error (.cache error), []⟩ := by
  obtain ⟨rfl, rfl⟩ := SitePlan.launch_eq_ok hlaunch
  have hfits := Site.fits_launched plan hooks hapart
  have hcoherent := Site.coherent_of_run hfits hdistinct
    (.start plan f hooks host hapart hdated hmirrors) hrun
  have hhere : moment.disk.here = disk.here := hcoherent.tended.here
  rw [← hhere] at hcontrollers
  rw [hcoherent.response_eq_plain hfits, hcoherent.response_eq_plain hfits]
  exact Site.plainResponse_unforced hcoherent.mirrors hcontrollers hasked

/-! ### A run

A template is requested, and then another text is written to it. -/

def themeServed : Moment ViewEngine :=
  (Site.run ((theme false).handle "/vwt/theme/home.html".toList)
    (themeMoment false [(["home.html"], .file (encode "1".toList) 1)])).2

def themeRewritten : Moment ViewEngine :=
  ⟨themeServed.state, ((write (.ofString "/vwt/theme/home.html") (encode "2".toList)).run.run
    themeServed.disk).2⟩

theorem run_themeRewritten : Relation.ReflTransGen
    (Site.Step (theme false) (· = "/vwt/theme/home.html".toList)
      (Site.Stamps (themePlan false).settings.directories
        (· = "/vwt/theme/home.html".toList)) False)
    (themeMoment false [(["home.html"], .file (encode "1".toList) 1)]) themeRewritten := by
  have hstamps : Site.Stamps (themePlan false).settings.directories
      (· = "/vwt/theme/home.html".toList) themeServed.disk
      ((write (.ofString "/vwt/theme/home.html") (encode "2".toList)).run.run
        themeServed.disk).2 :=
    edited_write _ (by decide +kernel) (by decide +kernel) not_false not_false
  have hserved : Site.Step (theme false) (· = "/vwt/theme/home.html".toList)
      (Site.Stamps (themePlan false).settings.directories (· = "/vwt/theme/home.html".toList)) False
      (themeMoment false [(["home.html"], .file (encode "1".toList) 1)]) themeServed :=
    .request _ "/vwt/theme/home.html".toList rfl
  exact (Relation.ReflTransGen.single hserved).tail (.edit themeServed _ hstamps)

theorem unforced_response_eq_forced_themeRewritten :
    ((theme false).forced false).response "/vwt/theme/home.html".toList themeRewritten
      = ((theme false).forced true).response "/vwt/theme/home.html".toList themeRewritten := by
  have hlaunch := launch_theme false [(["home.html"], .file (encode "1".toList) 1)]
    (by decide +kernel) (by decide +kernel)
  have hdates : ∀ entry ∈ (themeDisk [(["home.html"], .file (encode "1".toList) 1)]).tick.nodes,
      entry.2.modified ≤ (themeDisk [(["home.html"], .file (encode "1".toList) 1)]).tick.clock := by
    decide
  have hempty : ∀ entry ∈ (themeDisk [(["home.html"], .file (encode "1".toList) 1)]).tick.nodes,
      ¬Location.Inside ((themePlan false).settings.directories.viewCache.goal []) entry.1 := by
    decide +kernel
  have hdistinct : (theme false).Distinct (· = "/vwt/theme/home.html".toList) [] :=
    .single (by decide +kernel)
  rcases unforced_response_eq_forced hlaunch (by decide +kernel) hdates
      (fun _ hl ↦ node?_eq_none_of_nodes hempty hl) hdistinct (overlooks_theme false _ _)
      run_themeRewritten rfl
    with hsame | ⟨_, _, _, _, _, _, hfailed, _⟩
  · exact hsame
  · have hserved : (((theme false).forced false).response "/vwt/theme/home.html".toList
        themeRewritten).emitted ≠ [] := by decide +kernel
    exact absurd (congrArg Response.emitted hfailed) hserved

/-- Whether forcing shows on the home page of the watched theme, once that has been requested. -/
def ForcingShows (seen : Disk → Int) : Prop :=
  ((watchedPlan false seen).launch id .none .ready).run.run (themeDisk watchedTemplates)
      = (.ok (watchedTheme false seen, (themeMoment false watchedTemplates).state),
        (themeMoment false watchedTemplates).disk) ∧
    (watchedTheme false seen).Distinct (· = "/vwt/theme/home.html".toList) [] ∧
    Relation.ReflTransGen
      (Site.Step (watchedTheme false seen) (· = "/vwt/theme/home.html".toList)
        (Site.Stamps (watchedPlan false seen).settings.directories
          (· = "/vwt/theme/home.html".toList)) False)
      (themeMoment false watchedTemplates) (watchedOnce false seen) ∧
    (((watchedTheme false seen).forced false).response "/vwt/theme/home.html".toList
        (watchedOnce false seen)).emitted
      ≠ (((watchedTheme false seen).forced true).response "/vwt/theme/home.html".toList
        (watchedOnce false seen)).emitted

theorem forcingShows_of_emitted_ne {seen : Disk → Int}
    (h : (((watchedTheme false seen).forced false).response "/vwt/theme/home.html".toList
        (watchedOnce false seen)).emitted
      ≠ (((watchedTheme false seen).forced true).response "/vwt/theme/home.html".toList
        (watchedOnce false seen)).emitted) : ForcingShows seen := by
  have houtside : ¬(themePlan false).cache.directory.goal [] <+:
      Path.goal ⟨"/vwt/theme/home.html".toList⟩ [] := by decide +kernel
  have hrequest : Site.Step (watchedTheme false seen) (· = "/vwt/theme/home.html".toList)
      (Site.Stamps (watchedPlan false seen).settings.directories
        (· = "/vwt/theme/home.html".toList)) False
      (themeMoment false watchedTemplates) (watchedOnce false seen) :=
    .request _ "/vwt/theme/home.html".toList rfl
  exact ⟨launch_watchedTheme false seen, .single houtside, .single hrequest, h⟩

/-- When the name of the artifact is too long and the source is missing, it makes a difference which
of them is looked at first. And a controller can tell whether an artifact has been made again, by
its date and by the clock. -/
theorem exists_unforced_response_ne_forced :
    (∃ candidate, ((themePlan false).launch id .none .ready).run.run (themeDisk [])
        = (.ok (theme false, (themeMoment false []).state), (themeMoment false []).disk) ∧
      (theme false).Distinct (· = candidate) [] ∧
      ((theme false).forced false).response candidate (themeMoment false [])
        ≠ ((theme false).forced true).response candidate (themeMoment false [])) ∧
    ForcingShows artifactDate ∧ ForcingShows fun disk ↦ disk.clock := by
  refine ⟨⟨"/vwt/theme/".toList ++ List.replicate 252 'a' ++ ".x".toList,
    launch_theme false [] (by decide +kernel) (by decide +kernel), .single (by decide +kernel),
    fun hsame ↦ ?_⟩, forcingShows_of_emitted_ne ?_, forcingShows_of_emitted_ne ?_⟩
  · -- the errors differ in what they say
    have hmessage := congrArg (fun response ↦ (tryCatch (response.result.map fun _ ↦ "")
      fun error ↦ .ok (error.message .plain)).toOption) hsame
    revert hmessage
    decide +kernel
  · decide +kernel
  · decide +kernel

end CompiledViews
