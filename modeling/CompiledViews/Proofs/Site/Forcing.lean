import CompiledViews.Proofs.Site.Alike
import CompiledViews.Proofs.Site.Run

/-!
# Forced requests have no history

When the artifact of a candidate is made again in any case, a host gets what it would get from a
site that has just been launched, on the same files and with nothing in the directory of outputs.
What has been requested before does not matter, nor how others have dated what they edited, nor
which capabilities there were meanwhile: a renewal makes the engine forget everything, and no output
is newer than that.

A candidate must not be one of the outputs themselves, since those are gone when the directory is
emptied; and the controllers must not look at outputs either, nor at dates.
-/

namespace CompiledViews

open Template (Extensions)
open Disk

namespace Disk

/-- Whether a disk shows the same as another one, but for a directory in which nothing is left. -/
structure Emptied (directory : Path) (disk disk' : Disk) : Prop where
  alike : disk.Alike (Location.Inside (directory.goal disk.here)) disk'
  empty : ∀ l, Location.Inside (directory.goal disk.here) l → disk'.node? l = none
  there : disk'.isDirectory directory = true

def emptied (disk : Disk) (directory : Location) : Disk :=
  { disk with nodes := disk.nodes.filter fun entry ↦ !decide (Location.Inside directory entry.1) }

theorem Emptied.not_file {directory : Path} {disk disk' : Disk} (h : disk.Emptied directory disk')
    {l : Location} {content : ByteArray} {time : Time} (hl : directory.goal disk.here <+: l) :
    disk'.node? l ≠ some (.file content time) := by
  intro hfile
  by_cases heq : l = directory.goal disk.here
  · have hdirectory := hasDirectory_of_isDirectory h.there Path.goal_mem_trail
    rw [h.alike.here, ← heq, HasDirectory, kind, hfile] at hdirectory
    cases hdirectory
  · rw [h.empty l ⟨hl, heq⟩] at hfile
    cases hfile

theorem node?_emptied (disk : Disk) (directory l : Location) :
    (disk.emptied directory).node? l =
      if Location.Inside directory l then none else disk.node? l := by
  rw [node?, emptied, lookup_filter disk.nodes fun l ↦ !decide (Location.Inside directory l)]
  by_cases hl : l = []
  · have houtside : ¬Location.Inside directory l := by
      rintro ⟨hbelow, hne⟩
      rw [hl, List.prefix_nil] at hbelow
      exact hne (hl.trans hbelow.symm)
    rw [if_pos hl, if_neg houtside, node?, if_pos hl]
  · rw [if_neg hl]
    by_cases hinside : Location.Inside directory l
    · simp [hinside]
    · simp [hinside, node?, hl]

theorem emptied_spec {directory : Path} (disk : Disk)
    (hthere : (disk.emptied (directory.goal disk.here)).isDirectory directory = true) :
    disk.Emptied directory (disk.emptied (directory.goal disk.here)) where
  alike := .of_node? rfl fun l hl ↦ by rw [node?_emptied, if_neg hl]
  empty l hl := by rw [node?_emptied, if_pos hl]
  there := hthere

end Disk

namespace Site

variable {site : Site ViewEngine} {directories : Directories} {plain : PlainEngine}
  {here : Location} {moment : Moment ViewEngine} {candidate : Text} {disk disk' : Disk}

/-- Without going up, nothing in a directory is passed on the way to something outside of it. -/
theorem not_inside_of_mem_trail {host : Host} {directory l : Location}
    (haccepts : site.accepts host candidate = true)
    (hcandidate : ¬Location.Inside directory (Path.goal ⟨candidate⟩ here))
    (hl : l ∈ Path.trail ⟨candidate⟩ here) : ¬Location.Inside directory l := by
  rintro ⟨hbelow, hne⟩
  have hgoal := prefix_goal_of_accepts haccepts hl
  refine hcandidate ⟨hbelow.trans hgoal, fun heq ↦ hne ?_⟩
  rw [heq] at hgoal
  exact hgoal.eq_of_length_le hbelow.length_le

/-- The directory of artifacts stays in place when that of outputs is emptied, since it is reached
outside of that. -/
theorem isDirectory_of_emptied (hfits : site.Fits directories disk.here)
    (hplace : disk.isDirectory directories.viewCache = true)
    (hemptied : disk.Emptied directories.outputs disk') :
    disk'.isDirectory directories.viewCache = true := by
  refine isDirectory_of_hasDirectory hplace hemptied.alike.here fun l hl ↦ ?_
  have houtside : ¬Location.Inside (directories.outputs.goal disk.here) l := by
    intro hinside
    rw [← hfits.directory] at hl
    exact hfits.not_prefix_of_around (hfits.around_of_mem_trail hl) hinside.1
  exact (kind_of_sight (hemptied.alike.sight l houtside)).trans
    (hasDirectory_of_isDirectory hplace hl)

/-- The response to a forced request does not depend on the outputs. -/
theorem plainResponse_of_emptied (hfits : site.Fits directories disk.here)
    (hviews : plain.views = directories.views) {available : Capabilities} {host : Host}
    (hforces : site.forces candidate = true)
    (hcandidate : ¬Location.Inside (directories.outputs.goal disk.here)
      (Path.goal ⟨candidate⟩ disk.here))
    (hcontrollers : site.controllers.Overlooks
      (Location.Inside (directories.outputs.goal disk.here)) disk.here)
    (halike : disk.Alike (Location.Inside (directories.outputs.goal disk.here)) disk') :
    site.plainResponse plain available host candidate disk'
      = site.plainResponse plain available host candidate disk := by
  have haround : ∀ l, directories.views.Around disk.here l →
      ¬Location.Inside (directories.outputs.goal disk.here) l :=
    fun l hl hinside ↦ hfits.not_prefix_of_around hl hinside.1
  by_cases haccepts : site.accepts host candidate = true
  · -- both requests copy the source and ask for a page of views, and neither lies in the outputs
    have hdue : ∀ d, site.isDue candidate d = .ok true := fun d ↦ by rw [isDue, if_pos hforces]
    cases hview : Path.viewId? ⟨candidate⟩ with
    | none =>
      refine plainResponse_congr rfl rfl ?_ fun found hfound ↦ ?_
      · rw [check_of_no_viewId site hview, check_of_no_viewId site hview]
      · rw [check_of_no_viewId site hview] at hfound
        cases hfound
    | some viewId =>
      have hartifact := hfits.around_of_prefix
        (site.cache.goal_prefix_artifactLocation viewId disk.here)
      have hkind := kind_of_sight (halike.sight _ (haround _ hartifact))
      obtain ⟨hresult, hafter⟩ := check_alike_of_due hview (hdue disk) (hdue disk') halike
        (fun l hl ↦ not_inside_of_mem_trail haccepts hcandidate hl)
        (fun l hl ↦ haround l (hfits.around_of_mem_entered hl))
        (by rw [HasDirectory, hkind, HasDirectory])
      refine plainResponse_congr rfl rfl hresult fun found hfound ↦ ?_
      have hok := hafter (by rw [hfound]; rfl)
      have hhere := site.here_check candidate disk
      refine plainPage_alike (hok.mono fun l hl ↦ hl.1) ?_ ?_ found.viewId
      · rw [hhere]
        exact hcontrollers
      · rw [hhere, hviews]
        exact haround
  · rw [plainResponse, plainResponse, if_neg haccepts, if_neg haccepts]

/-- What others may do to the disk of a site: anything but to write outputs, as long as they leave
the directory of artifacts in place. -/
def Permits (directories : Directories) (disk disk' : Disk) : Prop :=
  disk.Unwritten (directories.outputs.goal disk.here <+: ·) disk' ∧
    disk'.isDirectory directories.viewCache = true

/-- What stays true of a site in the course of a run in which others keep to that. -/
structure Maintained (directories : Directories) (plain : PlainEngine) (here : Location)
    (moment : Moment ViewEngine) : Prop where
  tended : Tended directories plain here moment
  artifacts : moment.disk.isDirectory directories.viewCache = true

theorem Maintained.move {asked : Text → Prop} {switched : Prop} {moment' : Moment ViewEngine}
    (h : Maintained directories plain here moment) (hfits : site.Fits directories here)
    (hmove : Move site asked (Permits directories) switched moment moment') :
    Maintained directories plain here moment' where
  tended := by
    refine h.tended.move hfits (fun disk disk' hallowed hhere ↦ ?_) hmove
    rw [← hhere]
    exact hallowed.1
  artifacts := hmove.isDirectory (fun _ _ hallowed ↦ hallowed.2) h.artifacts

theorem maintained_of_run {asked : Text → Prop} {switched : Prop} {start : Moment ViewEngine}
    (hfits : site.Fits directories here) (hstart : Maintained directories plain here start)
    (hrun : Relation.ReflTransGen (Step site asked (Permits directories) switched) start moment) :
    Maintained directories plain here moment :=
  run_induction hfits (fun _ h ↦ h.tended) (fun _ _ h hmove ↦ h.move hfits hmove) hstart hrun

end Site

/-- **A forced request has no history.** At every moment of every run of a site, a request that is
forced gets what it gets from a site that is launched then and there with the directory of outputs
emptied, and that has the same capabilities. -/
theorem forced_response_eq_relaunched {plan : SitePlan} {f : Extensions → Extensions}
    {hooks : Hooks} {host : Host} {before disk disk' : Disk} {site : Site ViewEngine}
    {state : SiteState ViewEngine} {moment : Moment ViewEngine} {candidate : Text}
    (hlaunch : (plan.launch f hooks host).run.run before = (.ok (site, state), disk))
    (hapart : plan.settings.directories.views.Apart plan.settings.directories.outputs disk.here)
    (hwritten : ∀ l content time, plan.settings.directories.outputs.goal disk.here <+: l →
      disk.node? l = some (.file content time) → time ≤ disk.clock)
    (hthere : disk.isDirectory plan.settings.directories.viewCache = true)
    (hrun : Relation.ReflTransGen
      (Site.Step site (fun _ ↦ True) (Site.Permits plan.settings.directories) True)
      ⟨state, disk⟩ moment)
    (hforces : site.forces candidate = true)
    (hcandidate : ¬Location.Inside (plan.settings.directories.outputs.goal disk.here)
      (Path.goal ⟨candidate⟩ disk.here))
    (hcontrollers : site.controllers.Overlooks
      (Location.Inside (plan.settings.directories.outputs.goal disk.here)) disk.here)
    (hemptied : moment.disk.Emptied plan.settings.directories.outputs disk') :
    ∃ state' after,
      (plan.launch f hooks moment.state.host).run.run disk' = (.ok (site, state'), after) ∧
      site.response candidate ⟨{ state' with capabilities := moment.state.capabilities }, after⟩
        = site.response candidate moment := by
  obtain ⟨rfl, rfl⟩ := SitePlan.launch_eq_ok hlaunch
  have hfits := Site.fits_launched plan hooks hapart
  have hstart := Site.tended_start plan f host hwritten plan.capabilities
  obtain ⟨htended, hplace⟩ := Site.maintained_of_run hfits ⟨hstart, hthere⟩ hrun
  have hhere : moment.disk.here = disk.here := htended.here
  have hhere' : disk'.here = moment.disk.here := hemptied.alike.here
  rw [← hhere] at hfits hcandidate hcontrollers htended
  have hplace' := Site.isDirectory_of_emptied hfits hplace hemptied
  refine ⟨_, _, plan.run_launch_of_isDirectory f hooks _ hemptied.there hplace', ?_⟩
  have hwritten' : ∀ l content time,
      plan.settings.directories.outputs.goal disk'.tick.here <+: l →
      disk'.tick.node? l = some (.file content time) → time ≤ disk'.tick.clock := by
    intro l content time hl hfile
    rw [show disk'.tick.here = moment.disk.here from hhere'] at hl
    exact absurd hfile (hemptied.not_file hl)
  have hrelaunched := Site.tended_start plan f moment.state.host hwritten'
    moment.state.capabilities
  have hfits' : (plan.launched hooks).Fits plan.settings.directories disk'.tick.here := by
    rw [show disk'.tick.here = moment.disk.here from hhere']
    exact hfits
  have halike : moment.disk.Alike
      (Location.Inside (plan.settings.directories.outputs.goal moment.disk.here)) disk'.tick :=
    ⟨hhere', fun l hl ↦ hemptied.alike.sight l hl⟩
  rw [Site.response_eq_plain_of_due hfits htended (if_pos hforces),
    Site.response_eq_plain_of_due hfits' hrelaunched (if_pos hforces)]
  exact Site.plainResponse_of_emptied hfits rfl hforces hcandidate hcontrollers halike

/-! ### A run

A template is requested, and then it is replaced by one that is dated earlier. -/

def themeRequested : Moment ViewEngine :=
  (Site.run ((theme true).handle "/vwt/theme/home.html".toList)
    (themeMoment true [(["home.html"], .file (encode "1".toList) 1)])).2

def themeReplaced : Moment ViewEngine :=
  ⟨themeRequested.state,
    themeRequested.disk.put (themeLocation ["home.html"]) (.file (encode "2".toList) 0)⟩

theorem run_themeReplaced :
    Relation.ReflTransGen (Site.Step (theme true) (fun _ ↦ True)
      (Site.Permits (themePlan true).settings.directories) True)
      (themeMoment true [(["home.html"], .file (encode "1".toList) 1)]) themeReplaced := by
  have hspares : themeRequested.disk.Spares
      ((themePlan true).settings.directories.outputs.goal themeRequested.disk.here <+: ·)
      (themeRequested.disk.put (themeLocation ["home.html"]) (.file (encode "2".toList) 0)) :=
    spares_put _ _ (by decide) (by decide +kernel)
  have hthere : (themeRequested.disk.put (themeLocation ["home.html"])
      (.file (encode "2".toList) 0)).isDirectory (themePlan true).settings.directories.viewCache
        = true := by decide +kernel
  exact (Relation.ReflTransGen.single (.request _ _ trivial)).tail
    (.edit themeRequested _ ⟨hspares.unwritten, hthere⟩)

theorem emptied_themeReplaced : themeReplaced.disk.Emptied
    (themePlan true).settings.directories.outputs
    (themeReplaced.disk.emptied (themeLocation [".views_cache"])) := by
  have hgoal : (themePlan true).settings.directories.outputs.goal themeReplaced.disk.here
      = themeLocation [".views_cache"] := by decide +kernel
  rw [← hgoal]
  exact emptied_spec _ (by decide +kernel)

theorem forced_response_eq_relaunched_themeReplaced :
    ∃ state' after,
      ((themePlan true).launch id .none themeReplaced.state.host).run.run
        (themeReplaced.disk.emptied (themeLocation [".views_cache"]))
          = (.ok (theme true, state'), after) ∧
      (theme true).response "/vwt/theme/home.html".toList
        ⟨{ state' with capabilities := themeReplaced.state.capabilities }, after⟩
          = (theme true).response "/vwt/theme/home.html".toList themeReplaced := by
  have hlaunch := launch_theme true [(["home.html"], .file (encode "1".toList) 1)]
    (by decide +kernel) (by decide +kernel)
  have hdates : ∀ entry ∈ (themeDisk [(["home.html"], .file (encode "1".toList) 1)]).tick.nodes,
      entry.2.modified ≤ (themeDisk [(["home.html"], .file (encode "1".toList) 1)]).tick.clock := by
    decide
  exact forced_response_eq_relaunched hlaunch (by decide +kernel)
    (fun _ _ _ _ hfile ↦ modified_le_of_nodes hdates hfile) (by decide +kernel) run_themeReplaced
    (by decide +kernel) (by decide +kernel) (overlooks_theme true _ _) emptied_themeReplaced

/-- Whether there is an output for the home page. -/
def outputSeen (disk : Disk) : Int :=
  if disk.isFile (.ofString "/vwt/theme/.views_cache/cache/home.jinja") then 1 else 0

/-- Whether the history shows on the home page of the watched theme, once that has been
requested. -/
def HistoryShows (seen : Disk → Int) : Prop :=
  ∃ (disk' : Disk) (state' : SiteState ViewEngine) (after : Disk),
    Relation.ReflTransGen (Site.Step (watchedTheme true seen) (fun _ ↦ True)
      (Site.Permits (watchedPlan true seen).settings.directories) True)
      (themeMoment true watchedTemplates) (watchedOnce true seen) ∧
    (watchedOnce true seen).disk.Emptied
      (watchedPlan true seen).settings.directories.outputs disk' ∧
    ((watchedPlan true seen).launch id .none (watchedOnce true seen).state.host).run.run disk'
      = (.ok (watchedTheme true seen, state'), after) ∧
    ((watchedTheme true seen).response "/vwt/theme/home.html".toList
        ⟨{ state' with capabilities := (watchedOnce true seen).state.capabilities }, after⟩).emitted
      ≠ ((watchedTheme true seen).response "/vwt/theme/home.html".toList
        (watchedOnce true seen)).emitted

theorem historyShows_of_emitted_ne {seen : Disk → Int} {disk' : Disk}
    (hdisk : disk' = (watchedOnce true seen).disk.emptied (themeLocation [".views_cache"]))
    (h : (themePlan true).settings.directories.outputs.goal (watchedOnce true seen).disk.here
        = themeLocation [".views_cache"] ∧
      disk'.isDirectory (themePlan true).settings.directories.outputs = true ∧
      disk'.isDirectory (themePlan true).settings.directories.viewCache = true ∧
      ((watchedTheme true seen).response "/vwt/theme/home.html".toList
        ⟨{ (watchedPlan true seen).start ((watchedPlan true seen).fresh id disk'.tick.clock)
            (watchedOnce true seen).state.host with
          capabilities := (watchedOnce true seen).state.capabilities }, disk'.tick⟩).emitted
      ≠ ((watchedTheme true seen).response "/vwt/theme/home.html".toList
        (watchedOnce true seen)).emitted) : HistoryShows seen := by
  subst hdisk
  obtain ⟨hgoal, houtputs, hartifacts, hemitted⟩ := h
  have hrequest : Site.Step (watchedTheme true seen) (fun _ ↦ True)
      (Site.Permits (watchedPlan true seen).settings.directories) True
      (themeMoment true watchedTemplates) (watchedOnce true seen) :=
    .request _ "/vwt/theme/home.html".toList trivial
  have hemptied : (watchedOnce true seen).disk.Emptied
      (themePlan true).settings.directories.outputs
      ((watchedOnce true seen).disk.emptied (themeLocation [".views_cache"])) := by
    rw [← hgoal] at houtputs ⊢
    exact emptied_spec _ houtputs
  exact ⟨_, _, _, .single hrequest, hemptied, (watchedPlan true seen).run_launch_of_isDirectory id
    .none _ houtputs hartifacts, hemitted⟩

/-- When a candidate is one of the outputs, it makes a difference whether these are still there. And
a controller can tell, by an output, by the date of an artifact and by the clock. -/
theorem exists_forced_response_ne_relaunched :
    (∃ (candidate : Text) (moment : Moment ViewEngine) (disk' : Disk)
      (state' : SiteState ViewEngine) (after : Disk),
      Relation.ReflTransGen (Site.Step (theme true) (fun _ ↦ True)
        (Site.Permits (themePlan true).settings.directories) True)
        (themeMoment true [(["home.html"], .file (encode "1".toList) 1)]) moment ∧
      moment.disk.Emptied (themePlan true).settings.directories.outputs disk' ∧
      ((themePlan true).launch id .none moment.state.host).run.run disk'
        = (.ok (theme true, state'), after) ∧
      (theme true).response candidate
        ⟨{ state' with capabilities := moment.state.capabilities }, after⟩
          ≠ (theme true).response candidate moment) ∧
    HistoryShows outputSeen ∧ HistoryShows artifactDate ∧ HistoryShows fun disk ↦ disk.clock := by
  refine ⟨⟨"/vwt/theme/.views_cache/cache/home.jinja".toList, themeReplaced,
    themeReplaced.disk.emptied (themeLocation [".views_cache"]), _, _, run_themeReplaced,
    emptied_themeReplaced, (themePlan true).run_launch_of_isDirectory id .none
      themeReplaced.state.host (by decide +kernel) (by decide +kernel), fun hsame ↦ ?_⟩, ?_, ?_, ?_⟩
  · have hemitted := congrArg Response.emitted hsame
    revert hemitted
    decide +kernel
  · exact historyShows_of_emitted_ne rfl (by decide +kernel)
  · exact historyShows_of_emitted_ne rfl (by decide +kernel)
  · exact historyShows_of_emitted_ne rfl (by decide +kernel)

end CompiledViews
