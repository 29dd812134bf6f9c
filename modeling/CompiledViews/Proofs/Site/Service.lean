import CompiledViews.Proofs.Controller
import CompiledViews.Proofs.Site.Response

/-!
# Sites without memory

What a host gets from a request can be read off the disk: whether the artifact has to be made again
and what it is then, what the controllers supply, and what the page is that a plain engine renders
from that. A site whose engine remembers nothing false answers so, although what its engine does
depends on all that happened before.

The page has to be made of views about which the engine remembers nothing false. After a renewal
these are all views, since the engine has forgotten everything.
-/

namespace CompiledViews

open Disk

/-- What a host gets that is given a page, if there is one. -/
def Host.respond (host : Host) : Except SiteError Text → Response
  | .error error => ⟨.error error, []⟩
  | .ok page => match host.refusal? with
    | some fault => ⟨.error (.emit fault), []⟩
    | none => ⟨.ok [], [page]⟩

theorem Host.respond_congr {host host' : Host} (h : host'.refusal? = host.refusal?) :
    host'.respond = host.respond := by
  funext page
  rw [respond.eq_def, respond.eq_def, h]

/-- The engine after its outputs have been declared to be out of date. -/
def ViewEngine.expired (engine : ViewEngine) (time : Time) : ViewEngine :=
  { engine.forget with invalidatedAt := time }

namespace Site

/-! ## What a site without memory does -/

section Plain

variable {σ : Type} (site : Site σ)

/-- The page for a view, from the disk as it is. -/
def plainPage (plain : PlainEngine) (available : Capabilities) (viewId : Text) (disk : Disk) :
    Except SiteError Text :=
  match (site.controllers.resolve viewId disk).result with
  | .error error => .error (.controller error)
  | .ok data =>
    let name := site.hooks.template (renderName viewId) data
    let data := site.hooks.arguments data name
    match plain.render available name data disk with
    | .error error => .error (.render error)
    | .ok html => .ok (site.hooks.html html name data)

/-- Whether the page for a view is made of the given views only. -/
def ServesWithin (plain : PlainEngine) (names : Text → Prop) (available : Capabilities)
    (viewId : Text) (disk : Disk) : Prop :=
  ∀ data, (site.controllers.resolve viewId disk).result = .ok data →
    let name := site.hooks.template (renderName viewId) data
    plain.StaysWithin names available name (site.hooks.arguments data name) disk

instance {plain : PlainEngine} {names : Text → Prop} [DecidablePred names]
    {available : Capabilities} {viewId : Text} {disk : Disk} :
    Decidable (site.ServesWithin plain names available viewId disk) := decidableForallOk _

/-- Whether the artifact of a candidate is made again in any case. -/
def forces (candidate : Text) : Bool := site.force || site.hooks.force ⟨candidate⟩

/-- Whether the artifact of a candidate has to be made again. -/
def isDue (candidate : Text) (disk : Disk) : Except ViewCacheError Bool :=
  if site.forces candidate then .ok true else site.cache.isStale ⟨candidate⟩ disk

/-- The check of a candidate's artifact. When that is renewed, the clock is read once more. -/
def check (candidate : Text) (disk : Disk) : Except ViewCacheError CacheCheck × Disk :=
  let after := (site.cache.ensureFreshWith ⟨candidate⟩ (site.forces candidate) now).run.run disk
  (after.1.map (·.1), after.2)

/-- What a host gets from a request when the engine remembers nothing. -/
def plainResponse (plain : PlainEngine) (available : Capabilities) (host : Host) (candidate : Text)
    (disk : Disk) : Response :=
  if site.accepts host candidate then
    match site.check candidate disk with
    | (.error error, _) => ⟨.error (.cache error), []⟩
    | (.ok check, after) => host.respond (site.plainPage plain available check.viewId after)
  else ⟨.ok candidate, []⟩

theorem plainResponse_of_accepts {plain : PlainEngine} {available : Capabilities} {host : Host}
    {candidate : Text} {disk : Disk} (haccepts : site.accepts host candidate = true) :
    site.plainResponse plain available host candidate disk =
      match site.check candidate disk with
      | (.error error, _) => ⟨.error (.cache error), []⟩
      | (.ok check, after) => host.respond (site.plainPage plain available check.viewId after) :=
  if_pos haccepts

/-- How a check may come out. -/
inductive Checked (candidate : Text) (disk : Disk) : Except ViewCacheError CacheCheck × Disk → Prop
  /-- The artifact could not be examined, or not be written. -/
  | failed (error : ViewCacheError) (after : Disk) (h : after = disk ∨ after = disk.tick) :
    Checked candidate disk (.error error, after)
  /-- The artifact is newer than the source. -/
  | fresh (viewId : Text) (hview : Path.viewId? ⟨candidate⟩ = some viewId)
      (hdue : site.isDue candidate disk = .ok false) :
    Checked candidate disk (.ok ⟨viewId, renderName viewId, false⟩, disk)
  /-- The artifact has been made from the source. -/
  | renewed (viewId : Text) (content : ByteArray) (modified : Time)
      (hview : Path.viewId? ⟨candidate⟩ = some viewId) (hdue : site.isDue candidate disk = .ok true)
      (hstat : disk.stat ⟨candidate⟩ = .ok (.file content modified))
      (hartifact : ¬disk.HasDirectory (site.cache.artifactLocation viewId disk.here)) :
    Checked candidate disk (.ok ⟨viewId, renderName viewId, true⟩,
      (site.cache.renewed viewId content modified disk).tick)

/-- What a check does, with its reasons. -/
theorem check_eq {viewId : Text} {candidate : Text}
    (hview : Path.viewId? ⟨candidate⟩ = some viewId) (disk : Disk) :
    site.check candidate disk =
      match site.isDue candidate disk with
      | .error error => (.error error, disk)
      | .ok false => (.ok ⟨viewId, renderName viewId, false⟩, disk)
      | .ok true => match (site.cache.refresh ⟨candidate⟩).run.run disk with
        | (.error error, after) => (.error error, after)
        | (.ok _, after) => (.ok ⟨viewId, renderName viewId, true⟩, after.tick) := by
  rw [check, ViewCache.run_ensureFreshWith hview, ← isDue]
  rcases site.isDue candidate disk with error | _ | _
  · rfl
  · rfl
  · rcases (site.cache.refresh ⟨candidate⟩).run.run disk with ⟨_ | _, after⟩ <;> rfl

theorem check_of_no_viewId {candidate : Text} (hview : Path.viewId? ⟨candidate⟩ = none)
    (disk : Disk) : site.check candidate disk = (.error (.noViewId ⟨candidate⟩), disk) := by
  rw [check, ViewCache.run_ensureFreshWith_of_no_viewId hview]
  rfl

theorem checked (candidate : Text) (disk : Disk) :
    site.Checked candidate disk (site.check candidate disk) := by
  cases hview : Path.viewId? ⟨candidate⟩ with
  | none =>
    rw [check_of_no_viewId site hview]
    exact .failed _ _ (.inl rfl)
  | some viewId =>
    rw [check_eq site hview]
    split
    · exact .failed _ _ (.inl rfl)
    · next hdue => exact .fresh viewId hview hdue
    · next hdue =>
      rcases site.cache.refresh_cases hview disk with
        ⟨error, after, hrefresh, hafter⟩ | ⟨content, modified, hstat, hartifact, hrefresh⟩
      · rw [hrefresh]
        exact .failed error after hafter
      · rw [hrefresh]
        exact .renewed viewId content modified hview hdue hstat hartifact

def forced (force : Bool) : Site σ := { site with force }

theorem isDue_forced (candidate : Text) (disk : Disk) :
    (site.forced true).isDue candidate disk = .ok true := if_pos rfl

/-- What comes of a check that makes an artifact again in any case, where an unforced check fails:
it fails likewise, unless the artifact could not be looked up. -/
theorem check_of_fault {candidate viewId : Text} {error : ViewCacheError} {disk : Disk}
    (hview : Path.viewId? ⟨candidate⟩ = some viewId)
    (hstale : site.cache.isStale ⟨candidate⟩ disk = .error error) :
    (∃ after, (site.forced true).check candidate disk = (.error error, after)) ∨
    ∃ fault error' after, disk.stat (site.cache.artifactPath viewId) = .error fault ∧
      fault ≠ .notFound ∧ error = .io (site.cache.artifactPath viewId) fault ∧
      (site.forced true).check candidate disk = (.error error', after) := by
  rw [check_eq _ hview, isDue_forced, show (site.forced true).cache = site.cache from rfl]
  dsimp only
  rw [ViewCache.isStale_eq hview] at hstale
  cases hartifact : disk.stat (site.cache.artifactPath viewId) with
  | ok node =>
    rw [hartifact] at hstale
    dsimp only at hstale
    split at hstale
    · cases hstale
    · next fault hsource =>
      cases hstale
      rw [ViewCache.run_refresh hview, hsource]
      exact .inl ⟨_, rfl⟩
  | error fault =>
    have hfault : fault ≠ .notFound := by
      rintro rfl
      rw [hartifact] at hstale
      cases hstale
    obtain ⟨error', after, hrefresh⟩ := ViewCache.refresh_of_stat_error hview hartifact hfault
    rw [hrefresh]
    refine .inr ⟨fault, error', after, rfl, hfault, ?_, rfl⟩
    rw [hartifact] at hstale
    cases fault <;> first | exact absurd rfl hfault | exact (Except.error.inj hstale).symm

theorem check_forced_of_due {candidate viewId : Text} {disk : Disk}
    (hview : Path.viewId? ⟨candidate⟩ = some viewId) (hdue : site.isDue candidate disk = .ok true) :
    (site.forced true).check candidate disk = site.check candidate disk := by
  rw [check_eq _ hview, check_eq _ hview, hdue, isDue_forced]
  rfl

/-- Where an artifact is there and does not pass for up to date, it does not matter to a request
whether it is forced. -/
theorem plainResponse_of_stale {plain : PlainEngine} {available : Capabilities} {host : Host}
    {candidate viewId : Text} {disk : Disk} {node : Node}
    (hview : Path.viewId? ⟨candidate⟩ = some viewId)
    (hartifact : disk.stat (site.cache.artifactPath viewId) = .ok node)
    (hstale : site.isDue candidate disk ≠ .ok false) :
    (site.forced true).plainResponse plain available host candidate disk
      = site.plainResponse plain available host candidate disk := by
  by_cases haccepts : site.accepts host candidate = true
  · rw [plainResponse_of_accepts (site.forced true) haccepts,
      plainResponse_of_accepts site haccepts]
    rcases hdue : site.isDue candidate disk with error | _ | _
    · have hcheck : site.check candidate disk = (.error error, disk) := by
        rw [check_eq site hview, hdue]
      have hfault : site.cache.isStale ⟨candidate⟩ disk = .error error := by
        rw [isDue] at hdue
        split at hdue
        · cases hdue
        · exact hdue
      rcases check_of_fault site hview hfault with ⟨after, hforced⟩ | ⟨_, _, _, hstat, -⟩
      · rw [hcheck, hforced]
      · rw [hartifact] at hstat
        cases hstat
    · exact absurd hdue hstale
    · rw [check_forced_of_due site hview hdue]
      rfl
  · exact (if_neg haccepts).trans (if_neg haccepts).symm

theorem viewId_of_check {candidate : Text} {disk : Disk} {found : CacheCheck}
    (h : (site.check candidate disk).1 = .ok found) :
    Path.viewId? ⟨candidate⟩ = some found.viewId := by
  have hchecked := site.checked candidate disk
  rcases hcheck : site.check candidate disk with ⟨result, after⟩
  rw [hcheck] at h hchecked
  subst h
  cases hchecked with
  | fresh _ hview => exact hview
  | renewed _ _ _ hview => exact hview

theorem here_check (candidate : Text) (disk : Disk) :
    (site.check candidate disk).2.here = disk.here := by
  have hchecked := site.checked candidate disk
  generalize site.check candidate disk = result at hchecked ⊢
  cases hchecked with
  | failed error _ hafter => rcases hafter with rfl | rfl <;> rfl
  | fresh => rfl
  | renewed viewId content modified => exact ViewCache.here_renewed ..

end Plain

/-! ## What a site does whose engine has a memory -/

section Engine

variable {site : Site ViewEngine} {candidate : Text} {moment moment' : Moment ViewEngine}

/-- The moment after a check of an artifact: when that was renewed, all outputs are out of date. -/
def afterCheck (moment : Moment ViewEngine) (found : CacheCheck) (disk : Disk) :
    Moment ViewEngine :=
  ⟨{ moment.state with
      engine := if found.refreshed then moment.state.engine.expired disk.clock
        else moment.state.engine }, disk⟩

theorem run_ensureFresh_eq_check (hrenderer : site.renderer = ViewEngine.renderer)
    (candidate : Text) (moment : Moment ViewEngine) :
    run (site.ensureFresh ⟨candidate⟩) moment = match site.check candidate moment.disk with
      | (.error error, after) => (.error (.cache error), ⟨moment.state, after⟩)
      | (.ok found, after) => (.ok found, afterCheck moment found after) := by
  rw [run_ensureFresh, hrenderer, ← forces]
  cases hview : Path.viewId? ⟨candidate⟩ with
  | none =>
    rw [ViewCache.run_ensureFreshWith_of_no_viewId hview, check_of_no_viewId site hview]
  | some viewId =>
    rw [ViewCache.run_ensureFreshWith hview, check_eq site hview, ← isDue]
    rcases site.isDue candidate moment.disk with error | _ | _
    · rfl
    · rfl
    · rcases (site.cache.refresh ⟨candidate⟩).run.run moment.disk with ⟨_ | _, after⟩ <;> rfl

/-- A request is a check and, if that went well, the service of a page. -/
theorem run_handle_eq_check (hrenderer : site.renderer = ViewEngine.renderer) (candidate : Text)
    (moment : Moment ViewEngine) :
    run (site.handle candidate) moment =
      if site.accepts moment.state.host candidate then
        match site.check candidate moment.disk with
        | (.error error, after) => (.error (.cache error), ⟨moment.state, after⟩)
        | (.ok found, after) => run (site.serve found) (afterCheck moment found after)
      else (.ok candidate, moment) := by
  rw [run_handle, run_ensureFresh_eq_check hrenderer]
  split
  · rcases site.check candidate moment.disk with ⟨_ | found, after⟩ <;> rfl
  · rfl

/-- What a site and the disk have become when the engine has rendered or looked for a view, and
nothing else has happened that matters to later requests. -/
structure Served (moment moment' : Moment ViewEngine) : Prop where
  loads : ViewEngine.Loads moment.state.capabilities moment.state.engine moment.disk
    moment'.state.engine moment'.disk
  faithful : ∀ name,
    ViewEngine.Faithful moment.state.capabilities moment.state.engine moment.disk name →
      ViewEngine.Faithful moment.state.capabilities moment'.state.engine moment'.disk name
  capabilities : moment'.state.capabilities = moment.state.capabilities
  active : moment'.state.host.active = moment.state.host.active
  refusal? : moment'.state.host.refusal? = moment.state.host.refusal?

theorem Served.refl (moment : Moment ViewEngine) : Served moment moment :=
  ⟨.refl .., fun _ h ↦ h, rfl, rfl, rfl⟩

/-- The page that the engine makes is the one that an engine without memory would make, provided
that nothing false is remembered of the views that it is made of. -/
theorem plainPage_of_render
    (hapart : moment.state.engine.views.Apart moment.state.engine.outputs moment.disk.here)
    {viewId name : Text} {data data' : ViewData} {answer : Except RenderError Text}
    {engine' : ViewEngine} {disk' : Disk}
    (hdata : (site.controllers.resolve viewId moment.disk).result = .ok data)
    (hview : site.hooks.template (renderName viewId) data = name)
    (hargs : site.hooks.arguments data name = data')
    (hrender : ((ViewEngine.renderer.render moment.state.capabilities name data').run
      moment.state.engine).run moment.disk = ((answer, engine'), disk'))
    {names : Text → Prop} (hnames : ∀ name, names name → ViewEngine.Faithful
      moment.state.capabilities moment.state.engine moment.disk name)
    (hwithin : site.ServesWithin moment.state.engine.plain names moment.state.capabilities viewId
      moment.disk) :
    site.plainPage moment.state.engine.plain moment.state.capabilities viewId moment.disk
      = (answer.mapError .render).map fun html ↦ site.hooks.html html name data' := by
  obtain ⟨-, -, hsame⟩ := ViewEngine.faithful_render hnames hapart name data' hrender
  have hstays := hwithin data hdata
  dsimp only at hstays
  rw [hview, hargs] at hstays
  rw [plainPage, hdata]
  dsimp only
  rw [hview, hargs, ← hsame hstays]
  cases answer <;> rfl

/-- Serving a page does nothing but to load views, and what a host gets is what it gets from a site
without memory, provided that nothing false is remembered of the views that the page is made of. -/
theorem serve_spec (hrenderer : site.renderer = ViewEngine.renderer)
    (hapart : moment.state.engine.views.Apart moment.state.engine.outputs moment.disk.here)
    {viewId : Text} {refreshed : Bool} {result : Except SiteError Text}
    (hrun : run (site.serve ⟨viewId, renderName viewId, refreshed⟩) moment = (result, moment')) :
    Served moment moment' ∧ ∀ names : Text → Prop,
      (∀ name, names name → ViewEngine.Faithful moment.state.capabilities moment.state.engine
        moment.disk name) →
      site.ServesWithin moment.state.engine.plain names moment.state.capabilities viewId
        moment.disk →
      ⟨result, moment'.state.host.received.drop moment.state.host.received.length⟩
        = moment.state.host.respond (site.plainPage moment.state.engine.plain
          moment.state.capabilities viewId moment.disk) := by
  rw [run_serve, hrenderer] at hrun
  dsimp only at hrun
  cases hdata : (site.controllers.resolve viewId moment.disk).result with
  | error error =>
    rw [hdata] at hrun
    cases hrun
    refine ⟨⟨.refl .., fun _ h ↦ h, rfl, rfl, rfl⟩, fun names _ _ ↦ ?_⟩
    rw [plainPage, hdata]
    simp [Host.respond]
  | ok data =>
    rw [hdata] at hrun
    dsimp only at hrun
    generalize hview : site.hooks.template (renderName viewId) data = name at hrun
    generalize hargs : site.hooks.arguments data name = data' at hrun
    rcases hrender : ((ViewEngine.renderer.render moment.state.capabilities name data').run
      moment.state.engine).run moment.disk with ⟨⟨answer, engine'⟩, disk'⟩
    rw [hrender] at hrun
    obtain ⟨hloads, hfaithful, -⟩ :=
      ViewEngine.faithful_render (fun _ h ↦ h) hapart name data' hrender
    -- whatever the views are that the page is made of, the engine answers like a plain one
    have hanswer : ∀ names : Text → Prop, (∀ name, names name → ViewEngine.Faithful
        moment.state.capabilities moment.state.engine moment.disk name) →
        site.ServesWithin moment.state.engine.plain names moment.state.capabilities viewId
          moment.disk →
        site.plainPage moment.state.engine.plain moment.state.capabilities viewId moment.disk
          = (answer.mapError .render).map fun html ↦ site.hooks.html html name data' :=
      fun names hnames hwithin ↦
        plainPage_of_render hapart hdata hview hargs hrender hnames hwithin
    cases answer with
    | error error =>
      cases hrun
      refine ⟨⟨hloads, hfaithful, rfl, rfl, rfl⟩, fun names hnames hwithin ↦ ?_⟩
      rw [hanswer names hnames hwithin]
      simp [Host.respond, Except.map]
    | ok html =>
      dsimp only at hrun
      rw [Host.emit] at hrun
      cases hrefusal : moment.state.host.refusal? with
      | some fault =>
        rw [hrefusal] at hrun
        cases hrun
        refine ⟨⟨hloads, hfaithful, rfl, rfl, rfl⟩, fun names hnames hwithin ↦ ?_⟩
        rw [hanswer names hnames hwithin]
        simp [Host.respond, Except.map, hrefusal]
      | none =>
        rw [hrefusal] at hrun
        cases hrun
        refine ⟨⟨hloads, hfaithful, rfl, rfl, hrefusal.symm⟩, fun names hnames hwithin ↦ ?_⟩
        rw [hanswer names hnames hwithin]
        simp [Host.respond, Except.map, hrefusal]

theorem served_serve (hrenderer : site.renderer = ViewEngine.renderer)
    (hapart : moment.state.engine.views.Apart moment.state.engine.outputs moment.disk.here)
    (viewId : Text) (refreshed : Bool) :
    Served moment (run (site.serve ⟨viewId, renderName viewId, refreshed⟩) moment).2 :=
  (serve_spec hrenderer hapart rfl).1

theorem served_view (hrenderer : site.renderer = ViewEngine.renderer)
    (hapart : moment.state.engine.views.Apart moment.state.engine.outputs moment.disk.here)
    (name : Text) (data : ViewData) : Served moment (run (site.view name data) moment).2 := by
  rw [run_view, hrenderer]
  dsimp only
  generalize site.hooks.template name data = name'
  generalize site.hooks.arguments data name' = data'
  rcases hrender : ((ViewEngine.renderer.render moment.state.capabilities name' data').run
    moment.state.engine).run moment.disk with ⟨⟨answer, engine'⟩, disk'⟩
  obtain ⟨hloads, hfaithful, -⟩ :=
    ViewEngine.faithful_render (fun _ h ↦ h) hapart name' data' hrender
  exact ⟨hloads, hfaithful, rfl, rfl, rfl⟩

theorem served_compiles (hrenderer : site.renderer = ViewEngine.renderer)
    (hapart : moment.state.engine.views.Apart moment.state.engine.outputs moment.disk.here)
    (name : Text) : Served moment (run (site.compiles name) moment).2 := by
  rw [run_compiles, hrenderer]
  rcases hcompiles : ((ViewEngine.renderer.compiles moment.state.capabilities name).run
    moment.state.engine).run moment.disk with ⟨⟨answer, engine'⟩, disk'⟩
  obtain ⟨hloads, hfaithful, -⟩ :=
    ViewEngine.faithful_compiles (fun _ h ↦ h) hapart name hcompiles
  exact ⟨hloads, hfaithful, rfl, rfl, rfl⟩

end Engine

end Site

end CompiledViews
