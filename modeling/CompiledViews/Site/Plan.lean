import CompiledViews.Directive.Builtin
import CompiledViews.Settings.Basic
import CompiledViews.Site.Basic
import CompiledViews.ViewEngine.Basic

/-!
# Planning a site

Before a site begins, its directives and controllers are put together; afterwards they are fixed.
The built-in directives are there from the start, so a directive of the host may replace one.
-/

namespace CompiledViews

/-- What a site is to be like. -/
structure SiteSettings where
  directories : Directories
  /-- Whether artifacts are made again on every request. -/
  force : Bool
  /-- The filter that variables are passed through. -/
  sanitizeFilter : Text
  /-- The capabilities that are available from the start. -/
  capabilities : List Text

namespace SiteSettings

/-- The settings for a root without any other wishes. -/
def ofRoot (root : Path) : SiteSettings where
  directories := ({} : RelativeDirectories).resolve root
  force := false
  sanitizeFilter := CompiledViews.sanitizeFilter
  capabilities := []

/-- The settings that a settings file makes. -/
def ofSettings (settings : Settings) : SiteSettings where
  directories := settings.directories
  force := settings.engine.force
  sanitizeFilter := settings.engine.sanitizeFilter
  capabilities := settings.engine.capabilities

end SiteSettings

/-- A site that has not begun. -/
structure SitePlan where
  settings : SiteSettings
  registry : Directive.Registry
  controllers : ControllerRegistry

/-- The engine of this library, as sites see it. -/
def ViewEngine.renderer : Renderer ViewEngine where
  render := ViewEngine.render
  compiles := ViewEngine.compiles
  invalidate := ViewEngine.invalidate

namespace SitePlan

/-- The plan for settings, with the built-in directives. -/
def ofSiteSettings (settings : SiteSettings) : Except SiteError SitePlan :=
  match Directive.Registry.empty.registerBuiltins settings.sanitizeFilter with
  | .ok registry => .ok ⟨settings, registry, .empty⟩
  | .error error => .error (.directive error)

/-- The plan with more controllers. -/
def register (plan : SitePlan) (references : List ControllerReference) :
    Except SiteError SitePlan :=
  let registration := plan.controllers.register references
  match registration.result with
  | .ok () => .ok { plan with controllers := registration.registry }
  | .error error => .error (.controller error)

/-- The plan for the settings of a file, with their data files. -/
def ofSettings (settings : Settings) : Except SiteError SitePlan := do
  let plan ← ofSiteSettings (.ofSettings settings)
  let controllers ← (settings.controllers.mapM fun entry ↦
    Controller.ofDataFile entry.views entry.data).mapError .controller
  plan.register (controllers.map .ready)

/-- The capabilities that are available from the start. -/
def capabilities (plan : SitePlan) : Capabilities :=
  plan.settings.capabilities.foldl Capabilities.enable .none

def cache (plan : SitePlan) : ViewCache :=
  ⟨plan.settings.directories.viewCache, plan.settings.directories.outputs⟩

/-- An engine with the directives planned so far. -/
def engine (plan : SitePlan) : StateM Disk ViewEngine := do
  let directories := plan.settings.directories
  let engine ← ViewEngine.new directories.views directories.outputs plan.registry
  return engine.withSanitizeFilter plan.settings.sanitizeFilter

/-- The site as planned, with an engine and hooks. The directories it needs are created. -/
def site {σ : Type} (plan : SitePlan) (renderer : Renderer σ) (hooks : Hooks) :
    Disk.Action SiteError (Site σ) := do
  plan.cache.ensureDirectories.adapt .cache
  return {
    root := plan.settings.directories.root, force := plan.settings.force, cache := plan.cache
    controllers := plan.controllers, renderer, hooks }

/-- The state in which a site begins. -/
def start {σ : Type} (plan : SitePlan) (engine : σ) (host : Host) : SiteState σ :=
  ⟨engine, host, plan.capabilities, []⟩

end SitePlan

end CompiledViews
