import CompiledViews.Disk.Lookup
import CompiledViews.Settings.File
import CompiledViews.Settings.Variable

/-!
# Loading settings

Settings are taken from the file that is named, or from the nearest `vw.toml` in the working
directory and those around it, or else are the defaults for the working directory. The root is
relative to the file's directory, everything else to the root. Then the command line has its say: a
root given there moves the other directories along, unless they were said absolutely.
-/

namespace CompiledViews

/-- Why settings could not be loaded. -/
inductive SettingsError
  /-- The file that was asked for does not exist. -/
  | notFound (path : Path)
  /-- The file could not be read. -/
  | io (fault : IoFault)
  /-- The file breaks the rules of its format. -/
  | malformed
  /-- The settings contradict what they must satisfy. -/
  | flaw (found : Settings.Flaw)
  /-- A value refers to a variable that is not set. -/
  | variableMissing (field : String) (name : Text)
  deriving DecidableEq

def SettingsError.message (wording : Wording) : SettingsError → String
  | notFound path => s!"Configuration file not found: {path.toString}"
  | io fault => s!"I/O error: {wording.io fault}"
  | malformed => s!"TOML parse error: {wording.malformed}"
  | .flaw found => s!"Configuration error: {found.message}"
  | variableMissing field name =>
    s!"Environment variable error in {field}: " ++ "$\x7b" ++ String.ofList name ++ "\x7d not set"

namespace Settings

/-- What the command line says about settings. -/
structure Overrides where
  root : Option Path := none
  views : Option Path := none
  outputs : Option Path := none
  force : Option Bool := none

/-! ## Resolving a file -/

/-- Expands the variables in a value of a settings file. -/
def expandField (environment : Environment) (field : String) (value : Text) :
    Except SettingsError Text :=
  (expand environment value).mapError (.variableMissing field)

/-- Expands the variables in a value that may be missing. -/
def expandOptional (environment : Environment) (field : String) :
    Option Text → Except SettingsError (Option Text)
  | none => .ok none
  | some value => return some (← expandField environment field value)

/-- Expands the variables in the paths of data files, the first one having the given index. -/
def expandControllers (environment : Environment) :
    (index : Nat) → List (List Text × Text) → Except SettingsError (List (List Text × Text))
  | _, [] => .ok []
  | index, (views, data) :: rest => do
    let data ← expandField environment s!"controllers[{index}].data" data
    return (views, data) :: (← expandControllers environment (index + 1) rest)

/-- A settings file with the values of variables put in. -/
def File.expand (environment : Environment) (file : File) : Except SettingsError File := do
  let root ← expandOptional environment "templates.root" file.root
  let views ← expandOptional environment "templates.views_dir" file.relative.views
  let outputs ← expandOptional environment "templates.cache_dir" file.relative.outputs
  let controllers ← expandControllers environment 0 file.controllers
  return { file with root, relative := ⟨views, outputs⟩, controllers }

/-- The settings of a file at a path. -/
def File.resolve (file : File) (path : Path) : Settings :=
  let base := path.parent?.getD (.ofString ".")
  let root := base.join ⟨file.root.getD ['.']⟩
  { directories := file.relative.resolve root
    relative := file.relative
    engine := file.engine
    controllers := file.controllers.map fun (views, data) ↦ ⟨views, root.join ⟨data⟩⟩
    source := some path }

def loadFile (environment : Environment) (path : Path) (disk : Disk) :
    Except SettingsError Settings := do
  let document ← (disk.readText path).mapError .io
  let file ← match File.parse? document with
    | some file => .ok file
    | none => .error .malformed
  let settings := (← file.expand environment).resolve path
  settings.check.mapError .flaw
  return settings

/-! ## Loading -/

def fileName : Text := "vw.toml".toList

/-- Whether a path names something that exists. -/
def isThere (path : Path) (disk : Disk) : Bool := (disk.stat path).isOk

/-- The path of a location. -/
def pathOf (location : Location) : Path := ⟨'/' :: Text.join ['/'] location⟩

/-- The nearest settings file, in the working directory or one of those around it. -/
def discover? (disk : Disk) : Option Path :=
  ((pathOf disk.here).ancestors.map fun directory ↦ directory.join ⟨fileName⟩).find?
    (isThere · disk)

/-- Settings as the command line wants them. -/
def override (settings : Settings) (overrides : Overrides) : Settings :=
  let directories := match overrides.root with
    | some root => settings.relative.resolve root
    | none => settings.directories
  { settings with
    directories := { directories with
      views := overrides.views.getD directories.views
      outputs := overrides.outputs.getD directories.outputs }
    engine := { settings.engine with force := overrides.force.getD settings.engine.force } }

/-- The settings before the command line has its say. -/
def loadBase (path : Option Path) (environment : Environment) (disk : Disk) :
    Except SettingsError Settings :=
  match path with
  | some path =>
    if isThere path disk then loadFile environment path disk else .error (.notFound path)
  | none =>
    match discover? disk with
    | some path => loadFile environment path disk
    | none => .ok (ofRoot (pathOf disk.here))

/-- Loads settings from a file, or the nearest one if none is named. -/
def load (path : Option Path) (overrides : Overrides) (environment : Environment) (disk : Disk) :
    Except SettingsError Settings :=
  (loadBase path environment disk).map (·.override overrides)

end Settings

end CompiledViews
