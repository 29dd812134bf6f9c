import CompiledViews.Disk.Fault
import CompiledViews.Path

/-!
# What can go wrong with controllers

A controller's own failure is either a text of the host's or again an error of this library, when
the controller is a data file. So the two are defined together.
-/

namespace CompiledViews

/-- Why a data file has no data. -/
inductive DataFault
  /-- The document breaks the rules of its format. -/
  | malformed
  /-- The document is neither a mapping nor null. -/
  | notAMapping
  /-- The file's extension belongs to no known format. -/
  | unknownFormat
  deriving DecidableEq

def DataFault.message (wording : Wording) : DataFault → String
  | malformed => wording.malformed
  | notAMapping => "top level must be a mapping"
  | unknownFormat => "unsupported extension"

mutual

/-- Why a controller could not be registered or did not supply its data. -/
inductive ControllerError
  /-- A data file is to serve no view at all. -/
  | unbound (path : Path)
  /-- A data file's extension belongs to no known format. -/
  | unsupported (path : Path)
  /-- The factory of a controller failed. -/
  | factory (source : Failure)
  /-- A controller failed while supplying data for a view. -/
  | process (controller view : Text) (source : Failure)
  /-- A data file could not be read. -/
  | io (path : Path) (fault : IoFault)
  /-- A data file has no data. -/
  | data (path : Path) (fault : DataFault)

inductive Failure
  /-- A complaint in the host's own words. -/
  | other (message : Text)
  /-- An error of this library. -/
  | controller (error : ControllerError)

end

def ControllerError.message (wording : Wording) : ControllerError → String
  | unbound path =>
    s!"Controller configuration error: data file {path.toString} is not bound to any view"
  | unsupported path =>
    s!"Controller configuration error: unsupported data file {path.toString}: " ++
      "expected .json, .yaml or .yml"
  | factory _ => "Controller configuration error: controller factory failed"
  | process controller view _ =>
    s!"Controller {String.ofList controller} failed for view {String.ofList view}"
  | io path fault => s!"Failed to read controller data {path.toString}: {wording.io fault}"
  | data path fault => s!"Invalid controller data {path.toString}: {fault.message wording}"

def Failure.message (wording : Wording) : Failure → String
  | other message => String.ofList message
  | controller error => error.message wording

/-- What caused the error, if that is known. -/
def ControllerError.source? : ControllerError → Option Failure
  | factory source => some source
  | process _ _ source => some source
  | unbound _ => none
  | unsupported _ => none
  | io .. => none
  | data .. => none

end CompiledViews
