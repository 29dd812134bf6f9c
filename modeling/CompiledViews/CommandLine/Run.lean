import CompiledViews.CommandLine.Arguments
import CompiledViews.Settings.Load
import CompiledViews.Site.Plan
import CompiledViews.Site.Request

/-!
# Running a command

A command loads the settings, begins a site and makes one request. The page goes to the standard
output and everything else that is said to the other one, so the page can be used as it is.
-/

namespace CompiledViews.CommandLine

/-- What a run leaves to be seen: the exit code, and what it wrote. -/
structure Outcome where
  code : Nat
  stdout : Text
  stderr : Text
  deriving DecidableEq

/-- What a run has written so far. -/
structure Written where
  stdout : Text
  stderr : Text

/-- A step of a run, which may end it with a message. -/
abbrev Run (α : Type) := ExceptT String (StateT Written (StateM Disk)) α

namespace Run

def page (t : Text) : Run Unit :=
  modifyThe Written fun w ↦ { w with stdout := w.stdout ++ t }

/-- Writes a line about what is going on. -/
def note (line : String) : Run Unit :=
  modifyThe Written fun w ↦ { w with stderr := w.stderr ++ line.toList ++ ['\n'] }

/-- Does something with the disk; an error ends the run. -/
def onDisk {ε α : Type} (message : ε → String) (action : Disk.Action ε α) : Run α := do
  match ← monadLift (m := StateM Disk) action.run with
  | .ok a => return a
  | .error e => throw (message e)

/-- The result of something; an error ends the run. -/
def ofResult {ε α : Type} (message : ε → String) : Except ε α → Run α
  | .ok a => return a
  | .error e => throw (message e)

end Run

open Run

def siteMessage (error : SiteError) : String := error.message .plain

/-- The settings for a command. Paths given by options are relative to the working directory, and
not, as those in the file, to the file. -/
def settingsFor (environment : Environment) (command : Command) : Run Settings := do
  let disk ← getThe Disk
  let path? (switch : Switch) := (command.path? switch).map (·.absolute (Settings.pathOf disk.here))
  let overrides : Settings.Overrides :=
    ⟨path? .root, path? .views, path? .outputs, if command.has .force then some true else none⟩
  ofResult (·.message .plain)
    (Settings.load (command.path? .config) overrides environment disk)

/-- The site for settings, and the state in which it begins. -/
def beginSite (settings : Settings) (active : Bool) :
    Run (Site ViewEngine × SiteState ViewEngine) := do
  let plan ← ofResult siteMessage (SitePlan.ofSettings settings)
  let site ← onDisk siteMessage (plan.site ViewEngine.renderer Hooks.none)
  let engine ← monadLift (m := StateM Disk) plan.engine
  return (site, plan.start engine { Host.ready with active })

def render (environment : Environment) (command : Command) : Run Unit := do
  let settings ← settingsFor environment command
  let candidate := Path.absolute ⟨command.subject⟩ (Settings.pathOf (← getThe Disk).here)
  let (site, state) ← beginSite settings settings.engine.active
  let request := (site.handle candidate.spelling).run.run state
  let (result, state) ← monadLift (m := StateM Disk) request
  page state.host.received.flatten
  let rest ← ofResult siteMessage result
  if rest ≠ [] then
    let root := settings.directories.root.toString
    note s!"Not rendered: {String.ofList rest} is outside {root} or the engine is inactive"

def check (environment : Environment) (command : Command) : Run Unit := do
  let settings ← settingsFor environment command
  note s!"Views directory: {settings.directories.views.toString}"
  let (site, state) ← beginSite settings false
  let (result, _) ← monadLift (m := StateM Disk) ((site.compiles command.subject).run.run state)
  let compiles ← ofResult siteMessage result
  let view := String.ofList command.subject
  if compiles then note s!"View {view} compiles"
  else throw s!"View {view} is missing or does not compile"

/-- What the version is asked for. -/
def versionLine : String := "vw 0.1.0\n"

def helpText : String :=
  "Compiled view renderer\n\nUsage: vw <COMMAND>\n\nCommands:\n" ++
    "  render  Render a template candidate to stdout\n" ++
    "  check   Check that a view compiles\n" ++
    "  help    Print this message\n"

/-- Runs the command that arguments make up. -/
def run (environment : Environment) (arguments : List Text) : StateM Disk Outcome := do
  match read environment arguments with
  | .error .version => return ⟨0, versionLine.toList, []⟩
  | .error .help => return ⟨0, helpText.toList, []⟩
  | .error .usage => return ⟨2, [], helpText.toList⟩
  | .ok command =>
    let action := match command.verb with
      | .render => render environment command
      | .check => check environment command
    let (result, written) ← action.run.run ⟨[], []⟩
    match result with
    | .ok () => return ⟨0, written.stdout, written.stderr⟩
    | .error message =>
      return ⟨1, written.stdout, written.stderr ++ s!"Error: {message}\n".toList⟩

end CompiledViews.CommandLine
