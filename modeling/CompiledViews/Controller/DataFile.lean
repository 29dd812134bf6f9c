import CompiledViews.Controller.Basic
import CompiledViews.Data.Yaml

/-!
# Data files

A data file is a JSON or a YAML document whose top level is a mapping; an empty document is an empty
mapping. The extension of the file says which format it has.
-/

namespace CompiledViews

inductive DataFormat
  | json
  | yaml
  deriving DecidableEq

namespace DataFormat

/-- The format that a path's extension names. -/
def ofPath? (path : Path) : Option DataFormat :=
  match path.extension? with
  | some extension =>
    if extension = "json".toList then some json
    else if extension = "yaml".toList ∨ extension = "yml".toList then some yaml
    else none
  | none => none

/-- The value of a document. -/
def parse? : DataFormat → Text → Option Value
  | json => Json.parse?
  | yaml => Yaml.parse?

end DataFormat

def dataOf (format : Option DataFormat) (document : Text) : Except DataFault ViewData :=
  match format with
  | none => .error .unknownFormat
  | some format =>
    match format.parse? document with
    | none => .error .malformed
    | some (.object entries) => .ok entries
    | some .null => .ok []
    | some _ => .error .notAMapping

def loadData (path : Path) (disk : Disk) : Except ControllerError ViewData :=
  match disk.readText path with
  | .error fault => .error (.io path fault)
  | .ok document => (dataOf (DataFormat.ofPath? path) document).mapError (.data path)

namespace Controller

/-- The controller that serves views from a data file. The file is not looked at yet. -/
def ofDataFile (views : List Text) (path : Path) : Except ControllerError Controller :=
  if views.isEmpty then .error (.unbound path)
  else if (DataFormat.ofPath? path).isNone then .error (.unsupported path)
  else .ok ⟨"data:".toList ++ path.spelling, views, .dataFile path⟩

/-- The data that a controller supplies now. -/
def supply (controller : Controller) (disk : Disk) : Except Failure ViewData :=
  match controller.supplier with
  | .code supply => supply disk
  | .dataFile path => (loadData path disk).mapError .controller

end Controller

end CompiledViews
