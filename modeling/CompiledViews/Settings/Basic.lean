import CompiledViews.Disk.Fault
import CompiledViews.Path
import CompiledViews.Text.Quoted

/-!
# Settings

Where templates are, how the engine behaves, and which data files serve which views. Settings come
from a file `vw.toml`, from the command line, or are the defaults for a directory.
-/

namespace CompiledViews

/-- The directories that a site works with. -/
structure Directories where
  /-- Only what is below this directory is rendered. -/
  root : Path
  /-- Where views are loaded from. -/
  views : Path
  /-- Where the engine puts its compiled output. -/
  outputs : Path
  deriving DecidableEq

def Directories.viewCache (directories : Directories) : Path :=
  directories.views.join ⟨cacheSegment⟩
where
  cacheSegment : Text := "cache".toList

/-- How the engine behaves. -/
structure EngineSettings where
  /-- Whether requests are handled at all. -/
  active : Bool := true
  /-- The filter for values that `@var` sets. -/
  sanitizeFilter : Text := "sanitize".toList
  /-- The capabilities that are available. -/
  capabilities : List Text := []
  /-- Whether every request compiles its template again. -/
  force : Bool := false
  deriving DecidableEq

/-- A data file and the views that it serves. -/
structure DataSettings where
  views : List Text
  data : Path
  deriving DecidableEq

/-- Where views and compiled output are, as far as that is said: relative to the root. -/
structure RelativeDirectories where
  views : Option Text := none
  outputs : Option Text := none
  deriving DecidableEq

namespace RelativeDirectories

/-- The directories for a root. -/
def resolve (relative : RelativeDirectories) (root : Path) : Directories where
  root := root
  views := root.join ⟨relative.views.getD "views".toList⟩
  outputs := root.join ⟨relative.outputs.getD ".views_cache".toList⟩

end RelativeDirectories

structure Settings where
  directories : Directories
  /-- What the directories were derived from, in case that the root is replaced. -/
  relative : RelativeDirectories := {}
  engine : EngineSettings := {}
  controllers : List DataSettings := []
  /-- The file that the settings come from. -/
  source : Option Path := none

namespace Settings

/-- The settings of a site whose root is a given directory and that has no settings file. -/
def ofRoot (root : Path) : Settings := { directories := ({} : RelativeDirectories).resolve root }

/-! ## What settings must satisfy -/

/-- What is wrong with settings. -/
inductive Flaw
  /-- A value that has to be an identifier is none. -/
  | notIdentifier (field : String) (value : Text)
  /-- A data file serves no view, or a view without a name. -/
  | noViews (index : Nat)
  /-- A data file's extension belongs to no known format. -/
  | unknownFormat (index : Nat)
  deriving DecidableEq

def Flaw.message : Flaw → String
  | notIdentifier field value =>
    s!"{field} must be an identifier, got {String.ofList value.quoted}"
  | noViews index => s!"controllers[{index}].views must list at least one non-empty view"
  | unknownFormat index => s!"controllers[{index}].data must be a .json, .yaml or .yml file"

/-- Whether a value is spelled with letters, digits and underscores, and no digit in front. -/
def isPlain (value : Text) : Bool :=
  value.head?.any (fun c ↦ c.isAlpha || c == '_') && value.tail.all fun c ↦ c.isAlphanum || c == '_'

def requireIdentifier (field : String) (value : Text) : Except Flaw Unit :=
  if isPlain value then .ok () else .error (.notIdentifier field value)

def dataExtensions : List Text := ["json".toList, "yaml".toList, "yml".toList]

/-- Checks data files, the first one having the given index. A path without an extension counts as
one with an empty extension. -/
def checkData : (index : Nat) → List DataSettings → Except Flaw Unit
  | _, [] => .ok ()
  | index, entry :: rest =>
    if entry.views.isEmpty || entry.views.contains [] then .error (.noViews index)
    else if !dataExtensions.contains (entry.data.extension?.getD []) then
      .error (.unknownFormat index)
    else checkData (index + 1) rest

/-- Checks settings; the first flaw found is the error. -/
def check (settings : Settings) : Except Flaw Unit := do
  requireIdentifier "engine.sanitize_filter" settings.engine.sanitizeFilter
  settings.engine.capabilities.forM (requireIdentifier "engine.capabilities")
  checkData 0 settings.controllers

end Settings

end CompiledViews
