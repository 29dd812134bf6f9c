import CompiledViews.Controller.Error
import CompiledViews.ViewEngine.Basic

/-!
# What can go wrong with a site

An error of one of the parts of a site, as it is, or a page that was not taken. Hosts that only want
to know whom to tell go by the class of the error.
-/

namespace CompiledViews

/-- Why a site could not begin, or a request could not be answered. -/
inductive SiteError
  | cache (error : ViewCacheError)
  | controller (error : ControllerError)
  | directive (error : DirectiveError)
  | render (error : RenderError)
  /-- The host did not take the page. -/
  | emit (fault : IoFault)

inductive ErrorClass
  /-- The site is set up wrongly. -/
  | configuration
  /-- A directory or file of the cache is in the way, or missing. -/
  | filesystem
  /-- The page could not be made or delivered. -/
  | render
  deriving DecidableEq

def ErrorClass.name : ErrorClass → String
  | configuration => "Configuration"
  | filesystem => "Filesystem"
  | render => "Render"

namespace SiteError

def errorClass : SiteError → ErrorClass
  | cache _ => .filesystem
  | controller (.unbound _) => .configuration
  | controller (.unsupported _) => .configuration
  | controller (.factory _) => .configuration
  | controller _ => .render
  | directive _ => .configuration
  | render _ => .render
  | emit _ => .render

def message (wording : Wording) : SiteError → String
  | cache error => error.message wording
  | controller error => error.message wording
  | directive error => error.message
  | render error => error.message wording.io
  | emit fault => s!"Failed to emit rendered view: {wording.io fault}"

end SiteError

end CompiledViews
