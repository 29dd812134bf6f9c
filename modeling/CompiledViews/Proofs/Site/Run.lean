import CompiledViews.Proofs.Disk.Edit
import CompiledViews.Proofs.Site.Alike
import Mathlib.Logic.Relation

/-!
# Runs of a site

A site is launched, and then requests come in, the host asks for views, changes its mind about
taking pages, others edit files, and capabilities are switched. Which candidates are asked for,
which edits happen and whether capabilities are switched are parameters of a run.

Seen from the engine and the disk, little happens: views are loaded, an artifact is renewed and all
outputs are out of date then, or the clock moves on. Every step is a sequence of such moves, so
whatever is kept by the moves is kept by runs.

In the course of a run the engine keeps its directories and its language, and no output file is
newer than the clock, as long as nobody else touches them.
-/

namespace CompiledViews

open Template (Extensions)
open Disk

/-! ## Launching -/

namespace SitePlan

/-- A site begins: its directories are made, and its engine is configured. -/
def launch (plan : SitePlan) (f : Extensions → Extensions) (hooks : Hooks) (host : Host) :
    Action SiteError (Site ViewEngine × SiteState ViewEngine) := do
  let site ← plan.site ViewEngine.renderer hooks
  let engine ← ExceptT.lift plan.engine
  return (site, plan.start (engine.configure f) host)

def launched (plan : SitePlan) (hooks : Hooks) : Site ViewEngine where
  root := plan.settings.directories.root
  force := plan.settings.force
  cache := plan.cache
  controllers := plan.controllers
  renderer := ViewEngine.renderer
  hooks := hooks

/-- What the engine of a launched site is made of. -/
def plain (plan : SitePlan) (f : Extensions → Extensions) : PlainEngine where
  views := plan.settings.directories.views
  registry := plan.registry
  extensions := f <|
    if plan.settings.sanitizeFilter = sanitizeFilter then .standard
    else { Extensions.standard with
      filters := Extensions.standard.filters.insert plan.settings.sanitizeFilter identityFilter }

def fresh (plan : SitePlan) (f : Extensions → Extensions) (time : Time) : ViewEngine where
  views := plan.settings.directories.views
  outputs := plan.settings.directories.outputs
  registry := plan.registry
  extensions := (plan.plain f).extensions
  parsed := []
  loaded := []
  invalidatedAt := time
  calls := []

theorem run_engine (plan : SitePlan) (f : Extensions → Extensions) (disk : Disk) :
    (((plan.engine.run disk).1.configure f), (plan.engine.run disk).2)
      = (plan.fresh f disk.tick.clock, disk.tick) := by
  have hengine : plan.engine.run disk
      = (((ViewEngine.new plan.settings.directories.views plan.settings.directories.outputs
          plan.registry).run disk).1.withSanitizeFilter plan.settings.sanitizeFilter,
        disk.tick) := rfl
  rw [hengine, ViewEngine.withSanitizeFilter, fresh, plain]
  by_cases hfilter : plan.settings.sanitizeFilter = sanitizeFilter
  · rw [if_pos hfilter, if_pos hfilter]
    rfl
  · rw [if_neg hfilter, if_neg hfilter]
    rfl

theorem run_launch (plan : SitePlan) (f : Extensions → Extensions) (hooks : Hooks) (host : Host)
    (disk : Disk) :
    (plan.launch f hooks host).run.run disk =
      match plan.cache.ensureDirectories.run.run disk with
      | (.error error, after) => (.error (.cache error), after)
      | (.ok (), after) =>
        (.ok (plan.launched hooks, plan.start (plan.fresh f after.tick.clock) host),
          after.tick) := by
  rw [launch, site, run_bind, run_bind, run_adapt]
  rcases plan.cache.ensureDirectories.run.run disk with ⟨_ | _, after⟩
  · rfl
  · obtain ⟨hengine, hafter⟩ := Prod.mk.inj (plan.run_engine f after)
    change
      (Except.ok (plan.launched hooks, plan.start ((plan.engine.run after).1.configure f) host),
        (plan.engine.run after).2) = (Except.ok (plan.launched hooks, _), after.tick)
    rw [hengine, hafter]

/-- Where the directories are in place, launching does nothing but to look at the clock. -/
theorem run_launch_of_isDirectory (plan : SitePlan) (f : Extensions → Extensions) (hooks : Hooks)
    (host : Host) {disk : Disk} (houtputs : disk.isDirectory plan.cache.outputs = true)
    (hdirectory : disk.isDirectory plan.cache.directory = true) :
    (plan.launch f hooks host).run.run disk
      = (.ok (plan.launched hooks, plan.start (plan.fresh f disk.tick.clock) host), disk.tick) := by
  have hensure : plan.cache.ensureDirectories.run.run disk = (.ok (), disk) := by
    simp only [ViewCache.ensureDirectories, Bool.not_eq_eq_eq_not, Bool.not_true, List.forIn_cons,
      List.forIn_nil, bind_assoc, run_bind, run_get, houtputs, Bool.true_eq_false, ↓reduceIte,
      pure_bind, hdirectory]
    rfl
  rw [run_launch, hensure]

theorem launch_eq_ok {plan : SitePlan} {f : Extensions → Extensions} {hooks : Hooks} {host : Host}
    {disk disk' : Disk} {site : Site ViewEngine} {state : SiteState ViewEngine}
    (h : (plan.launch f hooks host).run.run disk = (.ok (site, state), disk')) :
    site = plan.launched hooks ∧ state = plan.start (plan.fresh f disk'.clock) host := by
  rw [run_launch] at h
  split at h
  · cases h
  · cases h
    exact ⟨rfl, rfl⟩

end SitePlan

namespace Site

variable {site : Site ViewEngine} {directories : Directories} {plain : PlainEngine}
  {here : Location} {moment moment' : Moment ViewEngine} {asked : Text → Prop}
  {allowed : Disk → Disk → Prop} {switched : Prop}

/-! ## Steps and moves -/

/-- What may happen to a site. -/
inductive Step (site : Site ViewEngine) (asked : Text → Prop) (allowed : Disk → Disk → Prop)
    (switched : Prop) : Moment ViewEngine → Moment ViewEngine → Prop
  | request (moment : Moment ViewEngine) (candidate : Text) (h : asked candidate) :
    Step site asked allowed switched moment (run (site.handle candidate) moment).2
  | view (moment : Moment ViewEngine) (name : Text) (data : ViewData) :
    Step site asked allowed switched moment (run (site.view name data) moment).2
  | compiles (moment : Moment ViewEngine) (name : Text) :
    Step site asked allowed switched moment (run (site.compiles name) moment).2
  | host (moment : Moment ViewEngine) (host : Host) :
    Step site asked allowed switched moment ⟨{ moment.state with host }, moment.disk⟩
  | switch (moment : Moment ViewEngine) (capabilities : Capabilities) (h : switched) :
    Step site asked allowed switched moment ⟨{ moment.state with capabilities }, moment.disk⟩
  | edit (moment : Moment ViewEngine) (disk : Disk) (h : allowed moment.disk disk) :
    Step site asked allowed switched moment ⟨moment.state, disk⟩

/-- What a step does to engine and disk. -/
inductive Move (site : Site ViewEngine) (asked : Text → Prop) (allowed : Disk → Disk → Prop)
    (switched : Prop) : Moment ViewEngine → Moment ViewEngine → Prop
  /-- Views are loaded. -/
  | served (moment moment' : Moment ViewEngine) (h : Served moment moment') :
    Move site asked allowed switched moment moment'
  /-- A check fails that has looked at the clock. -/
  | waited (moment : Moment ViewEngine) :
    Move site asked allowed switched moment ⟨moment.state, moment.disk.tick⟩
  /-- An artifact is made from its source. -/
  | renewed (moment : Moment ViewEngine) (candidate viewId : Text) (content : ByteArray)
      (modified : Time) (h : asked candidate) (hview : Path.viewId? ⟨candidate⟩ = some viewId)
      (hstat : moment.disk.stat ⟨candidate⟩ = .ok (.file content modified))
      (hartifact :
        ¬moment.disk.HasDirectory (site.cache.artifactLocation viewId moment.disk.here)) :
    Move site asked allowed switched moment (afterCheck moment ⟨viewId, renderName viewId, true⟩
      (site.cache.renewed viewId content modified moment.disk).tick)
  | host (moment : Moment ViewEngine) (host : Host) :
    Move site asked allowed switched moment ⟨{ moment.state with host }, moment.disk⟩
  | switched (moment : Moment ViewEngine) (capabilities : Capabilities) (h : switched) :
    Move site asked allowed switched moment ⟨{ moment.state with capabilities }, moment.disk⟩
  | edited (moment : Moment ViewEngine) (disk : Disk) (h : allowed moment.disk disk) :
    Move site asked allowed switched moment ⟨moment.state, disk⟩

/-- Whether a site has the engine of this library and works in directories that keep clear of one
another. -/
structure Fits (site : Site ViewEngine) (directories : Directories) (here : Location) : Prop where
  renderer : site.renderer = ViewEngine.renderer
  directory : site.cache.directory = directories.viewCache
  apart : directories.views.Apart directories.outputs here

/-- What stays true of a site in the course of a run. -/
structure Tended (directories : Directories) (plain : PlainEngine) (here : Location)
    (moment : Moment ViewEngine) : Prop where
  plain : moment.state.engine.plain = plain
  views : moment.state.engine.views = directories.views
  outputs : moment.state.engine.outputs = directories.outputs
  /-- No output file is newer than the clock. -/
  written : ∀ l content time, directories.outputs.goal here <+: l →
    moment.disk.node? l = some (.file content time) → time ≤ moment.disk.clock
  here : moment.disk.here = here

namespace Fits

theorem around_of_prefix (hfits : site.Fits directories here) {l : Location}
    (hl : site.cache.directory.goal here <+: l) : directories.views.Around here l := by
  rw [hfits.directory, directories.goal_viewCache] at hl
  exact .inl ((List.prefix_append _ _).trans hl)

/-- Artifacts are reached on the way of views. -/
theorem around_of_mem_entered (hfits : site.Fits directories here) {l : Location}
    (hl : l ∈ entered (site.cache.directory.start here) site.cache.directory.names) :
    directories.views.Around here l := by
  rw [hfits.directory, directories.entered_viewCache, List.mem_append, List.mem_singleton] at hl
  rcases hl with hway | rfl
  · exact .inr (List.mem_cons_of_mem _ hway)
  · rw [directories.goal_viewCache]
    exact .inl (List.prefix_append _ _)

theorem around_of_mem_trail (hfits : site.Fits directories here) {l : Location}
    (hl : l ∈ site.cache.directory.trail here) : directories.views.Around here l := by
  rcases List.mem_cons.mp hl with rfl | hl
  · exact hfits.around_of_prefix List.prefix_rfl
  · exact hfits.around_of_mem_entered hl

theorem not_prefix_of_around (hfits : site.Fits directories here) {l : Location}
    (hl : directories.views.Around here l) : ¬directories.outputs.goal here <+: l :=
  fun houtput ↦ hfits.apart.symm.not_around houtput hl

theorem forced (hfits : site.Fits directories here) (force : Bool) :
    (site.forced force).Fits directories here :=
  ⟨hfits.renderer, hfits.directory, hfits.apart⟩

/-- Nothing is in the directory of artifacts and in that of outputs. -/
theorem clear (hfits : site.Fits directories here) {l : Location}
    (hl : directories.outputs.goal here <+: l) : ¬site.cache.directory.goal here <+: l :=
  fun hcache ↦ hfits.not_prefix_of_around (hfits.around_of_prefix hcache) hl

end Fits

namespace Tended

theorem views_plain (h : Tended directories plain here moment) :
    plain.views = directories.views := by
  rw [← h.plain]
  exact h.views

theorem apart (h : Tended directories plain here moment) (hfits : site.Fits directories here) :
    moment.state.engine.views.Apart moment.state.engine.outputs moment.disk.here := by
  rw [h.views, h.outputs, h.here]
  exact hfits.apart

theorem served (h : Tended directories plain here moment) (hserved : Served moment moment') :
    Tended directories plain here moment' where
  plain := hserved.loads.plain.trans h.plain
  views := (congrArg PlainEngine.views hserved.loads.plain).trans h.views
  outputs := hserved.loads.outputs.trans h.outputs
  here := hserved.loads.grows.here.trans h.here
  written l content time hl hfile := hserved.loads.grows.date_le (h.written l content time hl) hfile

theorem waited (h : Tended directories plain here moment) :
    Tended directories plain here ⟨moment.state, moment.disk.tick⟩ :=
  ⟨h.plain, h.views, h.outputs, fun l content time hl hfile ↦
    Nat.le_succ_of_le (h.written l content time hl hfile), h.here⟩

theorem renewed (h : Tended directories plain here moment) (hfits : site.Fits directories here)
    (viewId : Text) (content : ByteArray) (modified : Time) :
    Tended directories plain here (afterCheck moment ⟨viewId, renderName viewId, true⟩
      (site.cache.renewed viewId content modified moment.disk).tick) where
  plain := h.plain
  views := h.views
  outputs := h.outputs
  here := (ViewCache.here_renewed ..).trans h.here
  written := by
    intro l content' time hl hfile
    change (site.cache.renewed viewId content modified moment.disk).node? l = _ at hfile
    have hclear := hfits.clear hl
    rw [← h.here] at hclear
    rw [ViewCache.node?_renewed_of_not_prefix content modified hclear] at hfile
    change time ≤ (site.cache.renewed viewId content modified moment.disk).clock + 1
    rw [ViewCache.clock_renewed]
    exact Nat.le_trans (h.written l content' time hl hfile) (Nat.le_add_right _ 3)

theorem edited (h : Tended directories plain here moment) {disk : Disk}
    (hedit : moment.disk.Unwritten (directories.outputs.goal here <+: ·) disk) :
    Tended directories plain here ⟨moment.state, disk⟩ where
  plain := h.plain
  views := h.views
  outputs := h.outputs
  here := hedit.here.trans h.here
  written l content time hl hfile :=
    Nat.le_trans (h.written l content time hl (hedit.files l content time hl hfile)) hedit.clock

/-- After a renewal nothing that is remembered can be false. -/
theorem faithful_of_renewed (h : Tended directories plain here moment)
    (hfits : site.Fits directories here) (viewId : Text) (content : ByteArray) (modified : Time)
    (name : Text) :
    let after := afterCheck moment ⟨viewId, renderName viewId, true⟩
      (site.cache.renewed viewId content modified moment.disk).tick
    ViewEngine.Faithful after.state.capabilities after.state.engine after.disk name := by
  have hafter := h.renewed hfits viewId content modified
  refine .of_expired rfl fun l content' time hl hfile ↦ ?_
  rw [hafter.outputs, hafter.here] at hl
  exact hafter.written l content' time hl hfile

/-- A site stays tended, whatever others do, as long as they write no outputs. -/
theorem move (h : Tended directories plain here moment) (hfits : site.Fits directories here)
    (hallowed : ∀ disk disk', allowed disk disk' → disk.here = here →
      disk.Unwritten (directories.outputs.goal here <+: ·) disk')
    (hmove : Move site asked allowed switched moment moment') :
    Tended directories plain here moment' := by
  cases hmove with
  | served _ hserved => exact h.served hserved
  | waited => exact h.waited
  | renewed _ viewId content modified => exact h.renewed hfits viewId content modified
  | host => exact ⟨h.plain, h.views, h.outputs, h.written, h.here⟩
  | switched => exact ⟨h.plain, h.views, h.outputs, h.written, h.here⟩
  | edited disk hedit => exact h.edited (hallowed _ _ hedit h.here)

end Tended

theorem Move.isDirectory {p : Path} (hmove : Move site asked allowed switched moment moment')
    (hallowed : ∀ disk disk', allowed disk disk' → disk'.isDirectory p = true)
    (h : moment.disk.isDirectory p = true) : moment'.disk.isDirectory p = true := by
  have hold := fun l hl ↦ hasDirectory_of_isDirectory h (l := l) hl
  cases hmove with
  | served _ hserved =>
    exact isDirectory_of_hasDirectory h hserved.loads.grows.here fun l hl ↦
      hserved.loads.grows.hasDirectory (hold l hl)
  | waited => exact isDirectory_of_hasDirectory h rfl hold
  | renewed _ viewId content modified _ _ _ hartifact =>
    refine isDirectory_of_hasDirectory h (ViewCache.here_renewed ..) fun l hl ↦ ?_
    exact ViewCache.hasDirectory_renewed content modified hartifact (hold l hl)
  | host => exact h
  | switched => exact h
  | edited disk hedit => exact hallowed _ _ hedit

theorem fits_launched (plan : SitePlan) (hooks : Hooks)
    (hapart : plan.settings.directories.views.Apart plan.settings.directories.outputs here) :
    (plan.launched hooks).Fits plan.settings.directories here :=
  ⟨rfl, rfl, hapart⟩

theorem tended_start (plan : SitePlan) (f : Extensions → Extensions) (host : Host) {disk : Disk}
    (hwritten : ∀ l content time, plan.settings.directories.outputs.goal disk.here <+: l →
      disk.node? l = some (.file content time) → time ≤ disk.clock) (capabilities : Capabilities) :
    Tended plan.settings.directories (plan.plain f) disk.here
      ⟨{ plan.start (plan.fresh f disk.clock) host with capabilities }, disk⟩ :=
  ⟨rfl, rfl, rfl, hwritten, rfl⟩

/-- Every step consists of moves. -/
theorem Step.moves (hfits : site.Fits directories here) (h : Tended directories plain here moment)
    (hstep : Step site asked allowed switched moment moment') :
    Relation.ReflTransGen (Move site asked allowed switched) moment moment' := by
  cases hstep with
  | request candidate hasked =>
    rw [run_handle_eq_check hfits.renderer]
    split
    · rcases hcheck : site.check candidate moment.disk with ⟨checked, after⟩
      have hchecked := site.checked candidate moment.disk
      rw [hcheck] at hchecked
      cases hchecked with
      | failed error _ hafter =>
        rcases hafter with rfl | rfl
        · exact .refl
        · exact .single (.waited moment)
      | fresh viewId =>
        have hserved := served_serve hfits.renderer (h.apart hfits) viewId false
        exact .single (.served moment _ hserved)
      | renewed viewId content modified hview _ hstat hartifact =>
        have hafter := h.renewed hfits viewId content modified
        have hserved := served_serve hfits.renderer (hafter.apart hfits) viewId true
        have hrenewed : Move site asked allowed switched moment _ :=
          .renewed moment candidate viewId content modified hasked hview hstat hartifact
        exact (Relation.ReflTransGen.single hrenewed).tail (.served _ _ hserved)
    · exact .refl
  | view name data =>
    exact .single (.served _ _ (served_view hfits.renderer (h.apart hfits) name data))
  | compiles name =>
    exact .single (.served _ _ (served_compiles hfits.renderer (h.apart hfits) name))
  | host host => exact .single (.host moment host)
  | switch capabilities hswitched => exact .single (.switched moment capabilities hswitched)
  | edit disk hedit => exact .single (.edited moment disk hedit)

/-- What is true at the start of a run and kept by all moves is true throughout the run. -/
theorem run_induction {motive : Moment ViewEngine → Prop} {start : Moment ViewEngine}
    (hfits : site.Fits directories here)
    (htended : ∀ moment, motive moment → Tended directories plain here moment)
    (hmove : ∀ moment moment', motive moment → Move site asked allowed switched moment moment' →
      motive moment') (hstart : motive start)
    (hrun : Relation.ReflTransGen (Step site asked allowed switched) start moment) :
    motive moment := by
  induction hrun with
  | refl => exact hstart
  | tail _ hstep ih =>
    -- a step is a run of moves, so there is a second induction inside
    have hmoves := hstep.moves hfits (htended _ ih)
    clear hstep
    induction hmoves with
    | refl => exact ih
    | tail _ hmoved ih => exact hmove _ _ ih hmoved

/-! ## What a host gets -/

theorem servesWithin_of_forall {available : Capabilities} {disk : Disk} {names : Text → Prop}
    (h : ∀ name, names name) (viewId : Text) :
    site.ServesWithin plain names available viewId disk :=
  fun _ _ ↦ ⟨h _, fun _ _ ↦ Template.Rendering.within_of_forall h _ _⟩

theorem response_of_not_accepts (hfits : site.Fits directories here) {candidate : Text}
    (haccepts : ¬site.accepts moment.state.host candidate = true) :
    site.response candidate moment = ⟨.ok candidate, []⟩ := by
  rw [response, run_handle_eq_check hfits.renderer, if_neg haccepts]
  simp

theorem response_of_no_viewId (hfits : site.Fits directories here) {candidate : Text}
    (haccepts : site.accepts moment.state.host candidate = true)
    (hview : Path.viewId? ⟨candidate⟩ = none) :
    site.response candidate moment = ⟨.error (.cache (.noViewId ⟨candidate⟩)), []⟩ := by
  rw [response, run_handle_eq_check hfits.renderer, if_pos haccepts, check_of_no_viewId site hview]
  simp

/-- A host gets what it would get from a site without memory. What is remembered of a page's views
has to be true if the artifact is not renewed. -/
theorem response_eq_plain (hfits : site.Fits directories here)
    (h : Tended directories plain here moment) {names : Text → Prop}
    (hfaithful : ∀ name, names name → ViewEngine.Faithful moment.state.capabilities
      moment.state.engine moment.disk name) {candidate : Text}
    (hwithin : ∀ viewId, Path.viewId? ⟨candidate⟩ = some viewId →
      site.isDue candidate moment.disk = .ok false →
      site.ServesWithin plain names moment.state.capabilities viewId moment.disk) :
    site.response candidate moment = site.plainResponse plain moment.state.capabilities
      moment.state.host candidate moment.disk := by
  rw [response, plainResponse, run_handle_eq_check hfits.renderer]
  split
  · rcases hcheck : site.check candidate moment.disk with ⟨checked, after⟩
    have hchecked := site.checked candidate moment.disk
    rw [hcheck] at hchecked
    cases hchecked with
    | failed error => simp
    | fresh viewId hview hdue =>
      obtain ⟨-, hresponse⟩ := serve_spec hfits.renderer (h.apart hfits) rfl
      rw [h.plain] at hresponse
      exact hresponse names hfaithful (hwithin viewId hview hdue)
    | renewed viewId content modified =>
      have hafter := h.renewed hfits viewId content modified
      obtain ⟨-, hresponse⟩ := serve_spec hfits.renderer (hafter.apart hfits) rfl
      rw [hafter.plain] at hresponse
      exact hresponse (fun _ ↦ True)
        (fun name _ ↦ h.faithful_of_renewed hfits viewId content modified name)
        (servesWithin_of_forall (fun _ ↦ trivial) viewId)
  · simp

/-- When the artifact is made again, nothing that is remembered matters. -/
theorem response_eq_plain_of_due (hfits : site.Fits directories here)
    (h : Tended directories plain here moment) {candidate : Text}
    (hdue : site.isDue candidate moment.disk = .ok true) :
    site.response candidate moment = site.plainResponse plain moment.state.capabilities
      moment.state.host candidate moment.disk := by
  have hnone : ∀ name, False → ViewEngine.Faithful moment.state.capabilities moment.state.engine
      moment.disk name := fun _ hfalse ↦ hfalse.elim
  refine response_eq_plain hfits h hnone fun viewId _ hfresh ↦ ?_
  rw [hdue] at hfresh
  cases hfresh

/-- When nothing false is remembered at all, it does not matter what a page is made of. -/
theorem response_eq_plain_of_faithful (hfits : site.Fits directories here)
    (h : Tended directories plain here moment)
    (hfaithful : ∀ name, ViewEngine.Faithful moment.state.capabilities moment.state.engine
      moment.disk name) (candidate : Text) :
    site.response candidate moment = site.plainResponse plain moment.state.capabilities
      moment.state.host candidate moment.disk := by
  have hall : ∀ name, True → ViewEngine.Faithful moment.state.capabilities moment.state.engine
      moment.disk name := fun name _ ↦ hfaithful name
  exact response_eq_plain hfits h hall fun viewId _ _ ↦
    servesWithin_of_forall (fun _ ↦ trivial) viewId

end Site

/-! ### A theme

A site as it is launched in the directory `/vwt/theme`, where there are some templates and nothing
else. -/

def themePlan (force : Bool) : SitePlan :=
  let settings := { SiteSettings.ofRoot (.ofString "/vwt/theme") with force }
  (SitePlan.ofSiteSettings settings).toOption.getD ⟨settings, .empty, .empty⟩

theorem themePlan_controllers (force : Bool) : (themePlan force).controllers = .empty := by
  rw [themePlan, SitePlan.ofSiteSettings]
  dsimp only
  split <;> rfl

def theme (force : Bool) : Site ViewEngine := (themePlan force).launched .none

/-- Where something of the theme is. -/
def themeLocation (names : List String) : Location :=
  ["vwt".toList, "theme".toList] ++ names.map String.toList

def themeDisk (templates : List (List String × Node)) : Disk where
  nodes := [(["vwt".toList], .directory 1), (themeLocation [], .directory 1),
      (themeLocation ["views"], .directory 1), (themeLocation ["views", "cache"], .directory 1),
      (themeLocation [".views_cache"], .directory 1)] ++
    templates.map fun (names, node) ↦ (themeLocation names, node)
  clock := 1
  here := []

def themeMoment (force : Bool) (templates : List (List String × Node)) : Moment ViewEngine :=
  let disk := (themeDisk templates).tick
  ⟨(themePlan force).start ((themePlan force).fresh id disk.clock) .ready, disk⟩

theorem launch_theme (force : Bool) (templates : List (List String × Node))
    (houtputs : (themeDisk templates).isDirectory (themePlan force).cache.outputs = true)
    (hdirectory : (themeDisk templates).isDirectory (themePlan force).cache.directory = true) :
    ((themePlan force).launch id .none .ready).run.run (themeDisk templates)
      = (.ok (theme force, (themeMoment force templates).state),
        (themeMoment force templates).disk) :=
  (themePlan force).run_launch_of_isDirectory id .none .ready houtputs hdirectory

theorem overlooks_theme (force : Bool) (region : Location → Prop) (here : Location) :
    (theme force).controllers.Overlooks region here := by
  intro controller hcontroller
  rw [show (theme force).controllers = .empty from themePlan_controllers force] at hcontroller
  cases hcontroller

/-! ### A watched theme

The same site with a controller, which tells the home page something about the disk. -/

def watchedPlan (force : Bool) (seen : Disk → Int) : SitePlan :=
  let supply (disk : Disk) : Except Failure ViewData := .ok [("seen".toList, .int (seen disk))]
  { themePlan force with controllers := ⟨[⟨"watcher".toList, ["home".toList], .code supply⟩], []⟩ }

def watchedTheme (force : Bool) (seen : Disk → Int) : Site ViewEngine :=
  (watchedPlan force seen).launched .none

/-- When the artifact of the home page was written. -/
def artifactDate (disk : Disk) : Int :=
  ((disk.modified (.ofString "/vwt/theme/views/cache/home.jinja")).toOption.getD 0 : Nat)

/-- A home page that shows what it is told. -/
def watchedTemplates : List (List String × Node) :=
  [(["home.html"], .file (encode "\x7b\x7b seen \x7d\x7d".toList) 1)]

theorem launch_watchedTheme (force : Bool) (seen : Disk → Int) :
    ((watchedPlan force seen).launch id .none .ready).run.run (themeDisk watchedTemplates)
      = (.ok (watchedTheme force seen, (themeMoment force watchedTemplates).state),
        (themeMoment force watchedTemplates).disk) := by
  have houtputs :
      (themeDisk watchedTemplates).isDirectory (themePlan force).cache.outputs = true := by
    cases force <;> decide +kernel
  have hdirectory :
      (themeDisk watchedTemplates).isDirectory (themePlan force).cache.directory = true := by
    cases force <;> decide +kernel
  exact (watchedPlan force seen).run_launch_of_isDirectory id .none .ready houtputs hdirectory

def watchedOnce (force : Bool) (seen : Disk → Int) : Moment ViewEngine :=
  (Site.run ((watchedTheme force seen).handle "/vwt/theme/home.html".toList)
    (themeMoment force watchedTemplates)).2

end CompiledViews
