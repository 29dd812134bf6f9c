import CompiledViews.Controller.Error
import CompiledViews.Data.Value
import CompiledViews.Disk.Lookup

/-!
# Controllers

A controller supplies data for the views that it names. It is either code of the host's, or a data
file, which is read anew each time.
-/

namespace CompiledViews

/-- Where a controller's data come from. -/
inductive Supplier
  /-- Code of the host's, which may look at the disk. -/
  | code (supply : Disk → Except Failure ViewData)
  /-- A data file. -/
  | dataFile (path : Path)

/-- A supplier of data for views. -/
structure Controller where
  /-- The name that errors show. -/
  name : Text
  /-- The ids of the views that it serves. -/
  views : List Text
  supplier : Supplier

namespace Controller

def serves (controller : Controller) (view : Text) : Bool := controller.views.contains view

def isCode (controller : Controller) : Bool :=
  match controller.supplier with
  | .code _ => true
  | .dataFile _ => false

end Controller

end CompiledViews
