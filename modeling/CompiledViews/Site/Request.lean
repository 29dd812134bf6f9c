import CompiledViews.Site.Basic

/-!
# Requests

The host names a template file it is about to include. If that is none of the site's business, the
name is handed back and nothing else is done. Otherwise the page is made and given to the host, and
the answer is empty. An error ends a request, and then nothing is given to the host.

A request goes through these steps: the source's artifact is made again where it is out of date, and
with it all that the engine keeps is declared out of date; the controllers of the view supply its
data; the engine renders it.
-/

namespace CompiledViews

/-- Whether a path lies below a directory without leaving it by a `..`. -/
def Path.isWithin (candidate root : Path) : Bool :=
  candidate.startsWith root && !candidate.components.contains .up

namespace Site

variable {σ : Type}

/-- Does something with the engine of a site. -/
def onEngine {α : Type} (action : StateT σ (StateM Disk) α) : SiteAction σ α := do
  let state ← getThe (SiteState σ)
  let disk ← getThe Disk
  let ((a, engine), disk) := (action.run state.engine).run disk
  set { state with engine }
  modifyThe Disk fun _ ↦ disk
  return a

/-- Whether a request for a template file is to be handled. -/
def accepts (site : Site σ) (host : Host) (candidate : Text) : Bool :=
  candidate != [] && Path.isWithin ⟨candidate⟩ site.root && host.active

/-- Makes the artifact of a source again where that is due; what the engine keeps is out of date
then. -/
def ensureFresh (site : Site σ) (source : Path) : SiteAction σ CacheCheck := do
  let force := site.force || site.hooks.force source
  let state ← getThe (SiteState σ)
  let disk ← getThe Disk
  let invalidation : StateM Disk σ := do return (← site.renderer.invalidate.run state.engine).2
  let (result, disk) := ((site.cache.ensureFreshWith source force invalidation).run).run disk
  modifyThe Disk fun _ ↦ disk
  match result with
  | .error error => throw (.cache error)
  | .ok (check, engine?) =>
    set { state with engine := engine?.getD state.engine }
    return check

/-- The data that controllers supply for a view. -/
def resolve (site : Site σ) (viewId : Text) : SiteAction σ ViewData := do
  let resolution := site.controllers.resolve viewId (← getThe Disk)
  modifyThe (SiteState σ) fun state ↦ { state with asked := state.asked ++ resolution.called }
  match resolution.result with
  | .ok data => return data
  | .error error => throw (.controller error)

def view (site : Site σ) (name : Text) (data : ViewData) : SiteAction σ Text := do
  let name := site.hooks.template name data
  let data := site.hooks.arguments data name
  match ← onEngine (site.renderer.render (← getThe (SiteState σ)).capabilities name data) with
  | .ok html => return site.hooks.html html name data
  | .error error => throw (.render error)

def emit (page : Text) : SiteAction σ Unit := do
  let state ← getThe (SiteState σ)
  match state.host.emit page with
  | .ok host => set { state with host }
  | .error fault => throw (.emit fault)

/-- Answers a request for a template file: what the host is still to include. -/
def handle (site : Site σ) (candidate : Text) : SiteAction σ Text := do
  if !site.accepts (← getThe (SiteState σ)).host candidate then return candidate
  let check ← site.ensureFresh ⟨candidate⟩
  let data ← site.resolve check.viewId
  let page ← site.view check.renderName data
  emit page
  return []

/-- Whether a view can be loaded and parsed. -/
def compiles (site : Site σ) (name : Text) : SiteAction σ Bool := do
  onEngine (site.renderer.compiles (← getThe (SiteState σ)).capabilities name)

end Site

end CompiledViews
