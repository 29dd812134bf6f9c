import CompiledViews.Controller.DataFile
import CompiledViews.Text.Quoted

/-!
# Registries of controllers

Controllers are kept in the order of their registration, and that is also the order in which those
that serve a view supply their data; what a later one supplies replaces what an earlier one did.

Answers tell what was done as well as what came of it: which controllers ran, which hooks were
called, how many factories were asked.
-/

namespace CompiledViews

inductive ControllerReference
  /-- A controller that exists already. -/
  | ready (controller : Controller)
  /-- A constructor, which is run when the controller is registered. -/
  | factory (build : Except Failure Controller)

namespace ControllerReference

/-- The controller; an error if its factory fails. -/
def build : ControllerReference → Except ControllerError Controller
  | ready controller => .ok controller
  | factory build => build.mapError .factory

/-- Whether a factory is run for the controller. -/
def isFactory : ControllerReference → Bool
  | ready _ => false
  | factory _ => true

/-- How a reference shows itself. -/
def summary : ControllerReference → Text
  | ready controller => "Instance(".toList ++ controller.name.quoted ++ [')']
  | factory _ => "Factory".toList

end ControllerReference

/-- Controllers, and hooks that are called for each one registered from now on. A hook answers what
it records. -/
structure ControllerRegistry where
  controllers : List Controller
  hooks : List (Controller → Text)

/-- What came of registering controllers. -/
structure Registration where
  registry : ControllerRegistry
  /-- What the hooks recorded. -/
  booted : List Text
  /-- The number of factories that were run. -/
  built : Nat
  result : Except ControllerError Unit

/-- What came of resolving a view's data. -/
structure Resolution where
  /-- The controllers that were asked, in order. -/
  called : List Controller
  result : Except ControllerError ViewData

namespace ControllerRegistry

def empty : ControllerRegistry := ⟨[], []⟩

def onBoot (registry : ControllerRegistry) (hook : Controller → Text) : ControllerRegistry :=
  { registry with hooks := registry.hooks ++ [hook] }

def add (registry : ControllerRegistry) (controller : Controller) : ControllerRegistry :=
  { registry with controllers := registry.controllers ++ [controller] }

/-- What the hooks record of a controller. -/
def boot (registry : ControllerRegistry) (controller : Controller) : List Text :=
  registry.hooks.map fun hook ↦ hook controller

/-- Registers controllers one after the other. A factory that fails ends it; what was registered
before stays so. -/
def register (registry : ControllerRegistry) : List ControllerReference → Registration
  | [] => ⟨registry, [], 0, .ok ()⟩
  | reference :: rest =>
    let asked := if reference.isFactory then 1 else 0
    match reference.build with
    | .error error => ⟨registry, [], asked, .error error⟩
    | .ok controller =>
      let later := (registry.add controller).register rest
      { later with
        booted := registry.boot controller ++ later.booted, built := asked + later.built }

def bound (registry : ControllerRegistry) (view : Text) : List Controller :=
  registry.controllers.filter (·.serves view)

/-- Adds to data what controllers supply for a view. The first failure ends it. -/
def supplyAll (view : Text) (disk : Disk) : ViewData → List Controller → Resolution
  | data, [] => ⟨[], .ok data⟩
  | data, controller :: rest =>
    match controller.supply disk with
    | .error failure => ⟨[controller], .error (.process controller.name view failure)⟩
    | .ok more =>
      let later := supplyAll view disk (Entries.merge data more) rest
      { later with called := controller :: later.called }

/-- The data of all controllers that serve a view. -/
def resolve (registry : ControllerRegistry) (view : Text) (disk : Disk) : Resolution :=
  supplyAll view disk [] (registry.bound view)

def size (registry : ControllerRegistry) : Nat := registry.controllers.length

/-- How a registry shows itself. -/
def summary (registry : ControllerRegistry) : Text :=
  let names := registry.controllers.map fun controller ↦ controller.name.quoted
  "ControllerRegistry \x7b controllers: [".toList ++ Text.join ", ".toList names ++
    "], boot_hooks: ".toList ++ Nat.toDigits 10 registry.hooks.length ++ " \x7d".toList

end ControllerRegistry

end CompiledViews
