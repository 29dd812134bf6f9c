import CompiledViews.Proofs.ViewCache.Refresh
import CompiledViews.Proofs.ViewEngine.Rendering
import CompiledViews.Site.Plan
import CompiledViews.Site.Request

/-!
# Responses

What a host gets from a request is an answer and perhaps a page. A request has two parts: a check
decides whether the source's artifact is made again, and then a page is served from the artifact.
The second part knows nothing of the source, and as far as the engine's memory is true, it is a
function of the view id and of what the disk shows.
-/

namespace CompiledViews

open Disk

/-- What a host gets from a request. -/
structure Response where
  result : Except SiteError Text
  /-- The pages given to the host, at most one. -/
  emitted : List Text

/-- Why no page could be rendered, if that is why there is none. -/
def Response.renderError? (response : Response) : Option RenderError :=
  match response.result with
  | .error (.render error) => some error
  | _ => none

/-- A site's state and the disk, at some moment. -/
structure Moment (σ : Type) where
  state : SiteState σ
  disk : Disk

namespace Site

section Run

variable {σ : Type} (site : Site σ)

def run {α : Type} (action : SiteAction σ α) (moment : Moment σ) :
    Except SiteError α × Moment σ :=
  let after := (action.run.run moment.state).run moment.disk
  (after.1.1, ⟨after.1.2, after.2⟩)

def response (candidate : Text) (moment : Moment σ) : Response :=
  let after := run (site.handle candidate) moment
  ⟨after.1, after.2.state.host.received.drop moment.state.host.received.length⟩

/-- What is done for a request once the artifact has been checked. -/
def serve (check : CacheCheck) : SiteAction σ Text := do
  let data ← site.resolve check.viewId
  let page ← site.view check.renderName data
  emit page
  return []

theorem run_bind {α β : Type} (action : SiteAction σ α) (f : α → SiteAction σ β)
    (moment : Moment σ) :
    run (action >>= f) moment = match run action moment with
      | (.ok a, after) => run (f a) after
      | (.error e, after) => (.error e, after) := by
  rw [run, Guarded.run_bind, run]
  rcases (action.run.run moment.state).run moment.disk with ⟨⟨_ | _, state⟩, disk⟩ <;> rfl

theorem run_handle (candidate : Text) (moment : Moment σ) :
    run (site.handle candidate) moment =
      if site.accepts moment.state.host candidate then
        match run (site.ensureFresh ⟨candidate⟩) moment with
        | (.ok check, after) => run (site.serve check) after
        | (.error e, after) => (.error e, after)
      else (.ok candidate, moment) := by
  rw [handle, run_bind]
  change run (if !site.accepts moment.state.host candidate then _ else _) moment = _
  cases site.accepts moment.state.host candidate with
  | true =>
    rw [if_pos rfl, if_neg (by decide)]
    rw [run_bind]
    rcases run (site.ensureFresh ⟨candidate⟩) moment with ⟨_ | check, after⟩ <;> rfl
  | false => rfl

theorem run_ensureFresh (source : Path) (moment : Moment σ) :
    run (site.ensureFresh source) moment =
      match (site.cache.ensureFreshWith source (site.force || site.hooks.force source)
        (do return (← site.renderer.invalidate.run moment.state.engine).2)).run.run moment.disk with
      | (.error error, after) => (.error (.cache error), ⟨moment.state, after⟩)
      | (.ok (check, engine?), after) =>
        (.ok check, ⟨{ moment.state with engine := engine?.getD moment.state.engine }, after⟩) := by
  rw [ensureFresh, run, Guarded.run_bind, Guarded.run_get]
  dsimp only
  rw [Guarded.run_bind, Guarded.run_getDisk]
  dsimp only
  rcases (site.cache.ensureFreshWith source (site.force || site.hooks.force source)
    (do return (← site.renderer.invalidate.run moment.state.engine).2)).run.run moment.disk with
    ⟨_ | ⟨check, _ | engine⟩, after⟩ <;> rfl

theorem run_resolve (viewId : Text) (moment : Moment σ) :
    run (site.resolve viewId) moment =
      let resolution := site.controllers.resolve viewId moment.disk
      (resolution.result.mapError .controller,
        ⟨{ moment.state with asked := moment.state.asked ++ resolution.called }, moment.disk⟩) := by
  rw [resolve, run, Guarded.run_bind, Guarded.run_getDisk]
  dsimp only
  rw [Guarded.run_bind, Guarded.run_modify]
  dsimp only
  cases (site.controllers.resolve viewId moment.disk).result <;> rfl

theorem run_view (name : Text) (data : ViewData) (moment : Moment σ) :
    run (site.view name data) moment =
      let name := site.hooks.template name data
      let data := site.hooks.arguments data name
      let rendered := ((site.renderer.render moment.state.capabilities name data).run
        moment.state.engine).run moment.disk
      ((rendered.1.1.mapError .render).map fun html ↦ site.hooks.html html name data,
        ⟨{ moment.state with engine := rendered.1.2 }, rendered.2⟩) := by
  dsimp only
  rw [view, run, Guarded.run_bind, Guarded.run_get]
  dsimp only
  rw [Guarded.run_bind]
  generalize site.hooks.template name data = name'
  generalize site.hooks.arguments data name' = data'
  have hon : (((onEngine (site.renderer.render moment.state.capabilities name' data') :
      SiteAction σ _).run.run moment.state).run moment.disk) =
      let rendered := ((site.renderer.render moment.state.capabilities name' data').run
        moment.state.engine).run moment.disk
      ((.ok rendered.1.1, { moment.state with engine := rendered.1.2 }), rendered.2) := rfl
  rw [hon]
  dsimp only
  rcases ((site.renderer.render moment.state.capabilities name' data').run
    moment.state.engine).run moment.disk with ⟨⟨_ | html, engine⟩, disk⟩ <;> rfl

theorem run_compiles (name : Text) (moment : Moment σ) :
    run (site.compiles name) moment =
      let answered := ((site.renderer.compiles moment.state.capabilities name).run
        moment.state.engine).run moment.disk
      (.ok answered.1.1, ⟨{ moment.state with engine := answered.1.2 }, answered.2⟩) := by
  rw [compiles, run, Guarded.run_bind, Guarded.run_get]
  rfl

theorem run_emit (page : Text) (moment : Moment σ) :
    run (emit page) moment = match moment.state.host.emit page with
      | .ok host => (.ok (), ⟨{ moment.state with host }, moment.disk⟩)
      | .error fault => (.error (.emit fault), moment) := by
  rw [emit, run, Guarded.run_bind, Guarded.run_get]
  dsimp only
  cases moment.state.host.emit page <;> rfl

theorem run_serve (check : CacheCheck) (moment : Moment σ) :
    run (site.serve check) moment =
      let resolution := site.controllers.resolve check.viewId moment.disk
      let asked : SiteState σ :=
        { moment.state with asked := moment.state.asked ++ resolution.called }
      match resolution.result with
      | .error error => (.error (.controller error), ⟨asked, moment.disk⟩)
      | .ok data =>
        let name := site.hooks.template check.renderName data
        let data := site.hooks.arguments data name
        let rendered := ((site.renderer.render moment.state.capabilities name data).run
          moment.state.engine).run moment.disk
        let after : SiteState σ := { asked with engine := rendered.1.2 }
        match rendered.1.1 with
        | .error error => (.error (.render error), ⟨after, rendered.2⟩)
        | .ok html =>
          match moment.state.host.emit (site.hooks.html html name data) with
          | .error fault => (.error (.emit fault), ⟨after, rendered.2⟩)
          | .ok host => (.ok [], ⟨{ after with host }, rendered.2⟩) := by
  rw [serve, run_bind, run_resolve]
  dsimp only
  cases (site.controllers.resolve check.viewId moment.disk).result with
  | error error => rfl
  | ok data =>
    simp only [mapError_ok, run_bind, run_view]
    generalize site.hooks.template check.renderName data = name
    generalize site.hooks.arguments data name = data'
    rcases ((site.renderer.render moment.state.capabilities name data').run
      moment.state.engine).run moment.disk with ⟨⟨_ | html, engine⟩, disk⟩
    · rfl
    · simp only [mapError_ok, Except.map, run_emit]
      cases moment.state.host.emit (site.hooks.html html name data') <;> rfl

end Run

end Site

end CompiledViews
