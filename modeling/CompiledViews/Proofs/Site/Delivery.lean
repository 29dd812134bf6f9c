import CompiledViews.Proofs.Site.Containment

/-!
# What a host is given

A request goes through four stages: the artifact is checked, controllers are asked, the view is
rendered, the page is given to the host. The last one that is run is the first one that fails. So
the pages that a host has, after any number of requests and whatever else has happened in between,
are those of the requests that have succeeded.

That a stage is not run cannot be seen from what the others have left. It is said, as for candidates
that are handed back, by leaving open what the stage would have been.
-/

namespace CompiledViews

def Moment.withHost {σ : Type} (moment : Moment σ) (host : Host) : Moment σ :=
  ⟨{ moment.state with host }, moment.disk⟩

namespace Site

variable {σ : Type} {site other : Site σ}

/-! ## Requests among other events -/

/-- A request for a template file, and the moment at which it comes. -/
structure Request (σ : Type) where
  candidate : Text
  moment : Moment σ

def Request.result (site : Site σ) (request : Request σ) : Except SiteError Text :=
  (run (site.handle request.candidate) request.moment).1

def Request.after (site : Site σ) (request : Request σ) : Moment σ :=
  (run (site.handle request.candidate) request.moment).2

/-- Whether a request has succeeded and its candidate was not handed back. -/
def Request.isServed (site : Site σ) (request : Request σ) : Bool :=
  site.accepts request.moment.state.host request.candidate && (request.result site).toBool

/-- Something that happens to a site. -/
inductive Event (σ : Type)
  /-- There is a request for a template file. -/
  | request (candidate : Text)
  /-- Anything else. The host changes its mind about requests or pages, files are edited,
  capabilities are switched, the engine is used; but no page is given to the host. -/
  | change (f : Moment σ → Moment σ)
    (hreceived : ∀ moment, (f moment).state.host.received = moment.state.host.received)

def Event.after (site : Site σ) (moment : Moment σ) : Event σ → Moment σ
  | request candidate => Request.after site ⟨candidate, moment⟩
  | change f _ => f moment

def afterAll (site : Site σ) (moment : Moment σ) (events : List (Event σ)) : Moment σ :=
  events.foldl (Event.after site) moment

def requests (site : Site σ) : Moment σ → List (Event σ) → List (Request σ)
  | _, [] => []
  | moment, .request candidate :: rest =>
    let request : Request σ := ⟨candidate, moment⟩
    request :: requests site (request.after site) rest
  | moment, .change f _ :: rest => requests site (f moment) rest

theorem mem_requests (site : Site σ) (moment : Moment σ) (before after : List (Event σ))
    (candidate : Text) : ⟨candidate, site.afterAll moment before⟩
      ∈ site.requests moment (before ++ .request candidate :: after) := by
  induction before generalizing moment with
  | nil => exact List.mem_cons_self
  | cons event rest ih =>
    cases event with
    | request other => exact List.mem_cons_of_mem _ (ih _)
    | change f _ => exact ih (f moment)

/-! ## Stages -/

def viewName (site : Site σ) (check : CacheCheck) (data : ViewData) : Text :=
  site.hooks.template check.renderName data

def viewData (site : Site σ) (check : CacheCheck) (data : ViewData) : ViewData :=
  site.hooks.arguments data (site.viewName check data)

/-- What the engine makes of a view, with the names and data that the hooks give it. -/
def rendering (site : Site σ) (check : CacheCheck) (data : ViewData) (moment : Moment σ) :
    (Except RenderError Text × σ) × Disk :=
  ((site.renderer.render moment.state.capabilities (site.viewName check data)
    (site.viewData check data)).run moment.state.engine).run moment.disk

def pageOf (site : Site σ) (check : CacheCheck) (data : ViewData) (html : Text) : Text :=
  site.hooks.html html (site.viewName check data) (site.viewData check data)

def resolution (site : Site σ) (check : CacheCheck) (moment : Moment σ) : Resolution :=
  site.controllers.resolve check.viewId moment.disk

def resolved (site : Site σ) (check : CacheCheck) (moment : Moment σ) : Moment σ where
  state := { moment.state with
    asked := moment.state.asked ++ (site.resolution check moment).called }
  disk := moment.disk

def rendered (site : Site σ) (check : CacheCheck) (data : ViewData) (moment : Moment σ) :
    Moment σ where
  state := { (site.resolved check moment).state with
    engine := (site.rendering check data moment).1.2 }
  disk := (site.rendering check data moment).2

/-- A request that has gone through all stages, and the page that the host has got from it. -/
inductive Delivers (site : Site σ) (request : Request σ) : Text → Prop
  | intro (check : CacheCheck) (checked : Moment σ) (data : ViewData) (html : Text)
    (hcheck : run (site.ensureFresh ⟨request.candidate⟩) request.moment = (.ok check, checked))
    (hdata : (site.resolution check checked).result = .ok data)
    (hhtml : (site.rendering check data checked).1.1 = .ok html)
    (hresult : request.result site = .ok [])
    (hreceived : (request.after site).state.host.received
      = request.moment.state.host.received ++ [site.pageOf check data html]) :
    Delivers site request (site.pageOf check data html)

/-- A request that has come to a stage that failed; what is left is what the stages so far have
left. -/
inductive Fails (site : Site σ) (request : Request σ) : SiteError → Moment σ → Prop
  | cache (error : ViewCacheError) (disk : Disk)
    (hcheck : run (site.ensureFresh ⟨request.candidate⟩) request.moment
      = (.error (.cache error), ⟨request.moment.state, disk⟩)) :
    Fails site request (.cache error) ⟨request.moment.state, disk⟩
  | controller (check : CacheCheck) (checked : Moment σ) (error : ControllerError)
    (hcheck : run (site.ensureFresh ⟨request.candidate⟩) request.moment = (.ok check, checked))
    (hdata : (site.resolution check checked).result = .error error) :
    Fails site request (.controller error) (site.resolved check checked)
  | render (check : CacheCheck) (checked : Moment σ) (data : ViewData) (error : RenderError)
    (hcheck : run (site.ensureFresh ⟨request.candidate⟩) request.moment = (.ok check, checked))
    (hdata : (site.resolution check checked).result = .ok data)
    (hhtml : (site.rendering check data checked).1.1 = .error error) :
    Fails site request (.render error) (site.rendered check data checked)
  | emit (check : CacheCheck) (checked : Moment σ) (data : ViewData) (html : Text) (fault : IoFault)
    (hcheck : run (site.ensureFresh ⟨request.candidate⟩) request.moment = (.ok check, checked))
    (hdata : (site.resolution check checked).result = .ok data)
    (hhtml : (site.rendering check data checked).1.1 = .ok html)
    (hrefusal : request.moment.state.host.refusal? = some fault) :
    Fails site request (.emit fault) (site.rendered check data checked)

theorem run_serve_eq (check : CacheCheck) (moment : Moment σ) :
    run (site.serve check) moment = match (site.resolution check moment).result with
      | .error error => (.error (.controller error), site.resolved check moment)
      | .ok data => match (site.rendering check data moment).1.1 with
        | .error error => (.error (.render error), site.rendered check data moment)
        | .ok html => match moment.state.host.emit (site.pageOf check data html) with
          | .error fault => (.error (.emit fault), site.rendered check data moment)
          | .ok host => (.ok [], (site.rendered check data moment).withHost host) :=
  run_serve site check moment

theorem ensureFresh_eq_error {source : Path} {moment after : Moment σ} {error : SiteError}
    (h : run (site.ensureFresh source) moment = (.error error, after)) :
    ∃ fault disk, error = .cache fault ∧ after = ⟨moment.state, disk⟩ := by
  rw [run_ensureFresh] at h
  split at h
  · cases h
    exact ⟨_, _, rfl, rfl⟩
  · cases h

theorem run_handle_of_check {request : Request σ} {check : CacheCheck} {checked : Moment σ}
    (haccepts : site.accepts request.moment.state.host request.candidate = true)
    (hcheck : run (site.ensureFresh ⟨request.candidate⟩) request.moment = (.ok check, checked)) :
    run (site.handle request.candidate) request.moment = run (site.serve check) checked
    ∧ checked.state.host = request.moment.state.host := by
  refine ⟨?_, host_ensureFresh hcheck⟩
  rw [run_handle, if_pos haccepts, hcheck]

/-- The stage at which a request fails settles the answer and what is left. -/
theorem run_of_fails {request : Request σ} {error : SiteError} {after : Moment σ}
    (haccepts : site.accepts request.moment.state.host request.candidate = true)
    (h : site.Fails request error after) :
    run (site.handle request.candidate) request.moment = (.error error, after) := by
  cases h with
  | cache error disk hcheck => rw [run_handle, if_pos haccepts, hcheck]
  | controller check checked error hcheck hdata =>
    rw [(run_handle_of_check haccepts hcheck).1, run_serve_eq, hdata]
  | render check checked data error hcheck hdata hhtml =>
    rw [(run_handle_of_check haccepts hcheck).1, run_serve_eq, hdata]
    dsimp only
    rw [hhtml]
  | emit check checked data html fault hcheck hdata hhtml hrefusal =>
    obtain ⟨hrun, hhost⟩ := run_handle_of_check haccepts hcheck
    rw [hrun, run_serve_eq, hdata]
    dsimp only
    rw [hhtml]
    dsimp only
    rw [hhost, Host.emit, hrefusal]

/-- A request whose candidate is not handed back delivers a page, or it fails at some stage. -/
theorem delivers_or_fails (request : Request σ)
    (haccepts : site.accepts request.moment.state.host request.candidate = true) :
    (∃ page, site.Delivers request page) ∨ ∃ error after, site.Fails request error after := by
  rcases hcheck : run (site.ensureFresh ⟨request.candidate⟩) request.moment with
    ⟨error | check, checked⟩
  · obtain ⟨fault, disk, rfl, rfl⟩ := ensureFresh_eq_error hcheck
    exact .inr ⟨_, _, .cache fault disk hcheck⟩
  obtain ⟨hrun, hhost⟩ := run_handle_of_check haccepts hcheck
  cases hdata : (site.resolution check checked).result with
  | error error => exact .inr ⟨_, _, .controller check checked error hcheck hdata⟩
  | ok data =>
    cases hhtml : (site.rendering check data checked).1.1 with
    | error error => exact .inr ⟨_, _, .render check checked data error hcheck hdata hhtml⟩
    | ok html =>
      cases hrefusal : request.moment.state.host.refusal? with
      | some fault =>
        exact .inr ⟨_, _, .emit check checked data html fault hcheck hdata hhtml hrefusal⟩
      | none =>
        rw [run_serve_eq, hdata] at hrun
        dsimp only at hrun
        rw [hhtml] at hrun
        dsimp only at hrun
        rw [hhost, Host.emit, hrefusal] at hrun
        refine .inl ⟨_, .intro check checked data html hcheck hdata hhtml ?_ ?_⟩
        · rw [Request.result, hrun]
        · rw [Request.after, hrun]
          rfl

theorem Fails.host {request : Request σ} {error : SiteError} {after : Moment σ}
    (h : site.Fails request error after) : after.state.host = request.moment.state.host := by
  have hchecked {check : CacheCheck} {checked : Moment σ}
      (hcheck : run (site.ensureFresh ⟨request.candidate⟩) request.moment = (.ok check, checked)) :
      checked.state.host = request.moment.state.host := host_ensureFresh hcheck
  cases h with
  | cache => rfl
  | controller check checked error hcheck => exact (hchecked hcheck :)
  | render check checked data error hcheck => exact (hchecked hcheck :)
  | emit check checked data html fault hcheck => exact (hchecked hcheck :)

/-! ## Stages that are not run -/

/-- Sites that are the same as far as it matters for checks of artifacts. -/
structure SameChecks (site other : Site σ) : Prop where
  root : other.root = site.root
  force : other.force = site.force
  cache : other.cache = site.cache
  forced : other.hooks.force = site.hooks.force
  invalidate : other.renderer.invalidate = site.renderer.invalidate

/-- Sites that are the same up to the stage that an error is of. -/
def SameUpTo (site other : Site σ) : SiteError → Prop
  | .cache _ => SameChecks site other
  | .controller _ => SameChecks site other ∧ other.controllers = site.controllers
  | .render _ => SameChecks site other ∧ other.controllers = site.controllers ∧
    other.renderer.render = site.renderer.render ∧
    other.hooks.template = site.hooks.template ∧ other.hooks.arguments = site.hooks.arguments
  | _ => other = site

/-- Hosts that are the same as far as a request comes that fails in this way. -/
def SameHost (host other : Host) : SiteError → Prop
  | .emit _ => other = host
  | _ => other.active = host.active

theorem SameUpTo.root {error : SiteError} (h : SameUpTo site other error) :
    other.root = site.root := by
  cases error with
  | cache error => exact SameChecks.root h
  | controller error => exact h.1.root
  | directive error => exact congrArg _ h
  | render error => exact h.1.root
  | emit fault => exact congrArg _ h

theorem SameHost.active {host other : Host} {error : SiteError} (h : SameHost host other error) :
    other.active = host.active := by
  cases error with
  | emit fault => exact congrArg _ h
  | cache error => exact h
  | controller error => exact h
  | directive error => exact h
  | render error => exact h

theorem run_ensureFresh_congr (h : SameChecks site other) (source : Path) (moment : Moment σ)
    (host : Host) :
    run (other.ensureFresh source) (moment.withHost host)
      = ((run (site.ensureFresh source) moment).1,
        (run (site.ensureFresh source) moment).2.withHost host) := by
  have hengine : (moment.withHost host).state.engine = moment.state.engine := rfl
  have hdisk : (moment.withHost host).disk = moment.disk := rfl
  rw [run_ensureFresh, run_ensureFresh, h.force, h.cache, h.forced, h.invalidate, hengine, hdisk]
  rcases (site.cache.ensureFreshWith source (site.force || site.hooks.force source)
    (do return (← site.renderer.invalidate.run moment.state.engine).2)).run.run moment.disk with
    ⟨_ | ⟨check, engine?⟩, after⟩ <;> rfl

theorem resolution_congr (h : other.controllers = site.controllers) (check : CacheCheck)
    (moment : Moment σ) (host : Host) :
    other.resolution check (moment.withHost host) = site.resolution check moment
    ∧ other.resolved check (moment.withHost host) = (site.resolved check moment).withHost host := by
  have hresolution : other.resolution check (moment.withHost host)
      = site.resolution check moment := by
    rw [resolution, h]
    rfl
  refine ⟨hresolution, ?_⟩
  rw [resolved, hresolution]
  rfl

theorem rendering_congr (hcontrollers : other.controllers = site.controllers)
    (hrender : other.renderer.render = site.renderer.render)
    (htemplate : other.hooks.template = site.hooks.template)
    (harguments : other.hooks.arguments = site.hooks.arguments) (check : CacheCheck)
    (data : ViewData) (moment : Moment σ) (host : Host) :
    other.rendering check data (moment.withHost host) = site.rendering check data moment
    ∧ other.rendered check data (moment.withHost host)
      = (site.rendered check data moment).withHost host := by
  have hrendering : other.rendering check data (moment.withHost host)
      = site.rendering check data moment := by
    rw [rendering, viewData, viewName, hrender, htemplate, harguments]
    rfl
  refine ⟨hrendering, ?_⟩
  rw [rendered, hrendering, (resolution_congr hcontrollers check moment host).2]
  rfl

/-- Stages past the one that fails may be any others. -/
theorem Fails.congr {request : Request σ} {error : SiteError} {after : Moment σ} {host : Host}
    (h : site.Fails request error after) (hsite : SameUpTo site other error)
    (hhost : SameHost request.moment.state.host host error) :
    other.Fails ⟨request.candidate, request.moment.withHost host⟩ error (after.withHost host) := by
  have hchecked {check : CacheCheck} {checked : Moment σ} (h : SameChecks site other)
      (hcheck : run (site.ensureFresh ⟨request.candidate⟩) request.moment = (.ok check, checked)) :
      run (other.ensureFresh ⟨request.candidate⟩) (request.moment.withHost host)
        = (.ok check, checked.withHost host) := by
    rw [run_ensureFresh_congr h, hcheck]
  cases h with
  | cache error disk hcheck =>
    refine .cache error disk ?_
    rw [run_ensureFresh_congr hsite, hcheck]
    rfl
  | controller check checked error hcheck hdata =>
    obtain ⟨hchecks, hcontrollers⟩ := hsite
    obtain ⟨hresolution, hresolved⟩ := resolution_congr hcontrollers check checked host
    rw [← hresolved]
    exact .controller check _ error (hchecked hchecks hcheck) (hresolution ▸ hdata)
  | render check checked data error hcheck hdata hhtml =>
    obtain ⟨hchecks, hcontrollers, hrender, htemplate, harguments⟩ := hsite
    obtain ⟨hresolution, -⟩ := resolution_congr hcontrollers check checked host
    obtain ⟨hrendering, hrendered⟩ :=
      rendering_congr hcontrollers hrender htemplate harguments check data checked host
    rw [← hrendered]
    exact .render check _ data error (hchecked hchecks hcheck) (hresolution ▸ hdata)
      (hrendering ▸ hhtml)
  | emit check checked data html fault hcheck hdata hhtml hrefusal =>
    obtain rfl : other = site := hsite
    obtain rfl : host = request.moment.state.host := hhost
    obtain ⟨hresolution, -⟩ := resolution_congr rfl check checked request.moment.state.host
    obtain ⟨hrendering, hrendered⟩ := rendering_congr rfl rfl rfl rfl check data checked
      request.moment.state.host
    rw [← hrendered]
    exact .emit check _ data html fault (hchecked ⟨rfl, rfl, rfl, rfl, rfl⟩ hcheck)
      (hresolution ▸ hdata) (hrendering ▸ hhtml) hrefusal

/-! ## Runs -/

/-- A request that has ended in an error: it has come to the stage the error is of, has given the
host nothing, and would have ended so with any later stages, and with any host that is as active
unless it was the host that failed. -/
structure Stops (site : Site σ) (request : Request σ) (error : SiteError) : Prop where
  fails : site.Fails request error (request.after site)
  host : (request.after site).state.host = request.moment.state.host
  others : ∀ other host, SameUpTo site other error →
    SameHost request.moment.state.host host error →
    run (other.handle request.candidate) (request.moment.withHost host)
      = (.error error, (request.after site).withHost host)

/-- A candidate is handed back and nothing has happened, or a page is delivered and nothing is
answered, or the request stops with an error. -/
theorem request_cases (site : Site σ) (request : Request σ) :
    (request.isServed site = false ∧ request.result site = .ok request.candidate ∧
      request.after site = request.moment) ∨
    (request.isServed site = true ∧ ∃ page, site.Delivers request page) ∨
    (request.isServed site = false ∧ ∃ error, request.result site = .error error ∧
      site.Stops request error) := by
  rw [Request.isServed]
  cases haccepts : site.accepts request.moment.state.host request.candidate with
  | false =>
    have hrun := passesThrough_of_not_accepts haccepts site request.moment rfl rfl
    exact .inl ⟨rfl, congrArg Prod.fst hrun, congrArg Prod.snd hrun⟩
  | true =>
    rcases delivers_or_fails request haccepts with ⟨page, hpage⟩ | ⟨error, after, hfails⟩
    · refine .inr (.inl ⟨?_, page, hpage⟩)
      obtain ⟨check, checked, data, html, -, -, -, hresult, -⟩ := hpage
      rw [hresult]
      rfl
    · have hrun := run_of_fails haccepts hfails
      have hresult : request.result site = .error error := congrArg Prod.fst hrun
      have hafter : request.after site = after := congrArg Prod.snd hrun
      refine .inr (.inr ⟨by rw [hresult]; rfl, error, hresult, hafter ▸ hfails,
        hafter ▸ hfails.host, fun other host hsite hhost ↦ ?_⟩)
      -- the other site asks the same before the first stage
      have hother : other.accepts host request.candidate = true := by
        rw [accepts, hsite.root, hhost.active]
        exact haccepts
      rw [hafter]
      exact run_of_fails hother (hfails.congr hsite hhost)

/-- One request more: what it delivers, if it does, comes after what was delivered before. -/
theorem received_request (site : Site σ) (request : Request σ) :
    ∃ pages, (request.after site).state.host.received
        = request.moment.state.host.received ++ pages ∧
      List.Forall₂ site.Delivers ([request].filter (·.isServed site)) pages := by
  rcases site.request_cases request with ⟨hserved, -, hafter⟩ | ⟨hserved, page, hpage⟩ |
    ⟨hserved, error, -, hstops⟩
  · exact ⟨[], by rw [hafter, List.append_nil], by simp [hserved]⟩
  · refine ⟨[page], ?_, by simp [hserved, hpage]⟩
    obtain ⟨check, checked, data, html, -, -, -, -, hreceived⟩ := hpage
    exact hreceived
  · exact ⟨[], by rw [hstops.host, List.append_nil], by simp [hserved]⟩

/-- Whatever happens to a site, the host has got, in order, the pages of the requests that have
succeeded and whose candidates were not handed back. A candidate that is handed back has not
changed anything. A request that fails has given the host nothing and has come no further than to
the stage that its error is of. -/
theorem requests_deliver (site : Site σ) (moment : Moment σ) (events : List (Event σ)) :
    (∃ pages, (site.afterAll moment events).state.host.received
        = moment.state.host.received ++ pages ∧
      List.Forall₂ site.Delivers ((site.requests moment events).filter (·.isServed site)) pages) ∧
    ∀ request ∈ site.requests moment events,
      (∀ text, request.result site = .ok text →
        text = (if request.isServed site then [] else request.candidate) ∧
        (request.isServed site = false → request.after site = request.moment)) ∧
      ∀ error, request.result site = .error error → site.Stops request error := by
  constructor
  -- the pages of the first event come before those of the others
  · induction events generalizing moment with
    | nil => exact ⟨[], (List.append_nil _).symm, .nil⟩
    | cons event rest ih =>
      obtain ⟨later, hlater, hrest⟩ := ih (event.after site moment)
      cases event with
      | request candidate =>
        obtain ⟨pages, hpages, hfirst⟩ := site.received_request ⟨candidate, moment⟩
        refine ⟨pages ++ later, ?_, ?_⟩
        · rw [← List.append_assoc, ← hpages]
          exact hlater
        · rw [requests, ← List.singleton_append, List.filter_append]
          exact List.rel_append hfirst hrest
      | change f hreceived => exact ⟨later, (hreceived moment) ▸ hlater, hrest⟩
  · intro request _
    rcases site.request_cases request with ⟨hserved, hresult, hafter⟩ | ⟨hserved, page, hpage⟩ |
      ⟨hserved, error, hresult, hstops⟩
    · rw [hresult, hserved]
      refine ⟨fun text htext ↦ ⟨(Except.ok.inj htext).symm, fun _ ↦ hafter⟩, fun error h ↦ ?_⟩
      cases h
    · have hresult : request.result site = .ok [] := by
        obtain ⟨check, checked, data, html, -, -, -, hresult, -⟩ := hpage
        exact hresult
      rw [hresult, hserved]
      refine ⟨fun text htext ↦ ⟨(Except.ok.inj htext).symm, nofun⟩, fun error h ↦ ?_⟩
      cases h
    · rw [hresult]
      refine ⟨fun text h ↦ ?_, fun other hother ↦ Except.error.inj hother ▸ hstops⟩
      cases h

/-! ### A host that refuses a page -/

/-- From now on the host refuses pages, or takes them. -/
def refusing (refusal? : Option IoFault) : Event ViewEngine :=
  .change (fun moment ↦ moment.withHost { moment.state.host with refusal? }) fun _ ↦ rfl

def navigation : Text := "/vwt/theme/parts/nav.html".toList

def navigated : List (Event ViewEngine) := [.request navigation, refusing (some .brokenPipe)]

def navigatedAgain : List (Event ViewEngine) :=
  [refusing none, .request navigation, .request "/vwt/secret.html".toList]

/-- The host takes the first page and not the second one, and the last candidate is handed back. -/
theorem requests_deliver_navigated :
    ((theme false).afterAll (themeMoment false nestedTemplates)
      (navigated ++ .request navigation :: navigatedAgain)).state.host.received
        = ["hi".toList, "hi".toList] ∧
    ∃ error, (theme false).Stops
      ⟨navigation, (theme false).afterAll (themeMoment false nestedTemplates) navigated⟩ error := by
  have hrequests := ((theme false).requests_deliver (themeMoment false nestedTemplates)
    (navigated ++ .request navigation :: navigatedAgain)).2 _ (mem_requests ..)
  refine ⟨by decide +kernel, ?_⟩
  generalize hrefused :
    (theme false).afterAll (themeMoment false nestedTemplates) navigated = moment at hrequests
  have herror : (Request.result (theme false) ⟨navigation, moment⟩).toBool = false := by
    rw [← hrefused]
    decide +kernel
  cases hresult : Request.result (theme false) ⟨navigation, moment⟩ with
  | ok text =>
    rw [hresult] at herror
    cases herror
  | error error => exact ⟨error, hrequests.2 error hresult⟩

end Site

end CompiledViews
