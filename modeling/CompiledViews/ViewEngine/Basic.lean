import CompiledViews.Directive.Registry
import CompiledViews.Disk.Change
import CompiledViews.Template.Page
import CompiledViews.Template.Statement.Reader
import CompiledViews.ViewCache.Basic

/-!
# The view engine

The engine renders views by name. A view's source is read, its directives are expanded, and the
result is parsed as a template. Twice on this way work is spared:

* the expanded text is written to an output file, and is used again as long as that file is newer
  than the source and than the last time outputs were declared to be out of date;
* the parsed template is kept, as long as no source of a view loaded since has changed.

An engine that begins takes all outputs there are to be out of date: they may have been written with
other directives.

What goes wrong is the fault of a template, seen from the view that was asked for. Two cases are
told apart by their outermost fault: that a view is missing, and that a directive of the view itself
cannot be expanded.
-/

namespace CompiledViews

open Template (Extensions Fault)

/-! ## Errors -/

/-- Why a view could not be rendered. -/
inductive RenderError
  | notFound (view : Text)
  | directive (view : Text) (error : DirectiveError)
  | template (view : Text) (fault : Template.Fault)
  deriving DecidableEq

namespace RenderError

/-- The error for a view whose template has a fault. -/
def ofFault (view : Text) (fault : Template.Fault) : RenderError :=
  if fault.kind = .templateNotFound then notFound view
  else match fault with
    | .unexpandable _ error => directive view error
    | fault => template view fault

def message (io : IoFault → String) : RenderError → String
  | notFound view => s!"View not found: {String.ofList view}"
  | directive view error => s!"Directive error in view {String.ofList view}: {error.message}"
  | template view fault =>
    s!"Failed to render view {String.ofList view}: " ++ ": ".intercalate (fault.chain io)

end RenderError

/-! ## Engines -/

/-- The filter that takes a value as it is, and that variables are passed through. -/
def sanitizeFilter : Text := "sanitize".toList

/-- The function that ends a query; without a host it does nothing. -/
def resetFunction : Text := "reset_query".toList

/-- An operation that leaves a value as it is. -/
def identityFilter : Template.Operation := .ofOne .ok

/-- What every engine adds to the language. -/
def Template.Extensions.standard : Extensions where
  functions := [(resetFunction, fun
    | [] => .ok (.text [])
    | _ => Template.Operation.refuse .tooManyArguments)]
  filters := [(sanitizeFilter, identityFilter)]

/-- The source of a view as it was when the view was loaded. -/
structure LoadedSource where
  path : Path
  modified : Time
  deriving DecidableEq

/-- An engine for the views of a directory. -/
structure ViewEngine where
  /-- The directory of views. -/
  views : Path
  /-- The directory of output files. -/
  outputs : Path
  registry : Directive.Registry
  extensions : Extensions
  /-- The templates parsed so far. -/
  parsed : Entries Template
  /-- The sources of the views loaded so far. -/
  loaded : Entries LoadedSource
  /-- Outputs up to this time are out of date. -/
  invalidatedAt : Time
  /-- The functions that templates have called, in order. -/
  calls : List Text

/-- Something done with an engine and a disk. -/
abbrev EngineAction (α : Type) := StateT ViewEngine (StateM Disk) α

namespace ViewEngine

/-! ## Beginning and changing an engine -/

/-- An engine for the views of a directory, which writes its output files to another. -/
def new (views outputs : Path) (registry : Directive.Registry) : StateM Disk ViewEngine := do
  return {
    views, outputs, registry, extensions := .standard, parsed := [], loaded := []
    invalidatedAt := ← Disk.now, calls := [] }

/-- The engine without anything parsed or loaded. -/
def forget (engine : ViewEngine) : ViewEngine := { engine with parsed := [], loaded := [] }

/-- Changes what is added to the language. Everything is loaded anew. -/
def configure (engine : ViewEngine) (f : Extensions → Extensions) : ViewEngine :=
  { engine.forget with extensions := f engine.extensions }

/-- Adds a filter of this name that takes a value as it is; the standard one is there already. -/
def withSanitizeFilter (engine : ViewEngine) (name : Text) : ViewEngine :=
  if name = sanitizeFilter then engine
  else engine.configure fun e ↦ { e with filters := e.filters.insert name identityFilter }

def sourcePath? (engine : ViewEngine) (name : Text) : Option Path :=
  ViewName.path? engine.views name

def outputPath? (engine : ViewEngine) (name : Text) : Option Path :=
  ViewName.path? engine.outputs name

/-- Declares all outputs written so far to be out of date. -/
def invalidate : EngineAction Unit := do
  let time ← Disk.now
  modify fun engine ↦ { engine.forget with invalidatedAt := time }

/-! ## Loading -/

/-- The text of an output file that can be used again. -/
def reusableOutput? (engine : ViewEngine) (output : Path) (modified : Time) (disk : Disk) :
    Option Text :=
  match disk.modified output with
  | .ok written =>
    if isExpired (max engine.invalidatedAt modified) written then none
    else (disk.readText output).toOption
  | .error _ => none

/-- Writes a file in one step, with the directories it needs. -/
def writeOutput (output : Path) (content : Text) : Disk.Action IoFault Unit := do
  let directory := output.parent?.getD ⟨['.']⟩
  Disk.makeDirectories directory
  Disk.publish (← Disk.draft directory (Disk.encode content)) output

/-- The text of a view with its directives expanded. That the output file cannot be written is no
reason to fail: it only spares work. -/
def expandSource (engine : ViewEngine) (available : Capabilities) (name : Text)
    (source output : Path) : Disk.Action Fault Text := do
  let text ← Disk.query fun disk ↦ (disk.readText source).mapError (.unreadable source)
  let expanded ← Disk.query fun _ ↦
    (engine.registry.expand available text).mapError (.unexpandable name)
  let _ ← Disk.attempt (writeOutput output expanded)
  return expanded

/-- The text of a view as a template; none if there is no such view. -/
def load (available : Capabilities) (name : Text) :
    ExceptT Fault (StateT ViewEngine (StateM Disk)) (Option Text) := do
  let engine ← getThe ViewEngine
  match engine.sourcePath? name, engine.outputPath? name with
  | some source, some output =>
    match (← getThe Disk).modified source with
    | .error .notFound => return none
    | .error fault => throw (.unreadable source fault)
    | .ok modified =>
      modifyThe ViewEngine fun engine ↦
        { engine with loaded := engine.loaded.insert name ⟨source, modified⟩ }
      match engine.reusableOutput? output modified (← getThe Disk) with
      | some text => return some text
      | none =>
        match ← (engine.expandSource available name source output).run with
        | .ok text => return some text
        | .error fault => throw fault
  | _, _ => return none

/-- The template of a view, parsed now or before. -/
def template (available : Capabilities) (name : Text) : EngineAction (Except Fault Template) := do
  match (← get).parsed.get? name with
  | some t => return .ok t
  | none =>
    match ← (load available name).run with
    | .error fault => return .error fault
    | .ok none => return .error (.plain .templateNotFound)
    | .ok (some text) =>
      match Template.parse text with
      | .error kind => return .error (.plain kind)
      | .ok t =>
        modify fun engine ↦ { engine with parsed := engine.parsed.insert name t }
        return .ok t

/-- Whether a source is not as it was when its view was loaded. -/
def hasChanged (source : LoadedSource) (disk : Disk) : Bool :=
  match disk.modified source.path with
  | .ok modified => modified != source.modified
  | .error _ => true

/-- Forgets everything loaded if any of it has changed. -/
def reloadChanged : EngineAction Unit := do
  let disk ← getThe Disk
  modify fun engine ↦
    if engine.loaded.any fun (_, source) ↦ hasChanged source disk then engine.forget else engine

/-! ## Rendering -/

def render (available : Capabilities) (name : Text) (data : ViewData) :
    EngineAction (Except RenderError Text) := do
  reloadChanged
  match ← template available name with
  | .error fault => return .error (.ofFault name fault)
  | .ok t =>
    let page ← (t.render (← get).extensions data).run (template available)
    modify fun engine ↦ { engine with calls := engine.calls ++ page.calls }
    return page.result.mapError (.ofFault name)

/-- Whether a view can be loaded and parsed. -/
def compiles (available : Capabilities) (name : Text) : EngineAction Bool := do
  reloadChanged
  return (← template available name).isOk

/-- How an engine shows itself. -/
def summary (engine : ViewEngine) : Text :=
  "JinjaEngine \x7b cache_dir: ".toList ++ Text.quoted engine.outputs.spelling ++
    ", .. \x7d".toList

end ViewEngine

end CompiledViews
