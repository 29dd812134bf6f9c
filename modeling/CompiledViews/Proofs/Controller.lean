import CompiledViews.Controller.Registry
import CompiledViews.Proofs.Disk.Alike

/-!
# What controllers look at

Data files are read when they are asked for, so what a controller supplies depends on the disk. A
controller overlooks a region when it does not: a data file that is reached without passing through
the region, or code that takes no notice of it, and none of dates and of the clock.
-/

namespace CompiledViews

open Disk

/-- Whether what is supplied does not depend on what is in a region, nor on dates, when relative
paths start from `here`. -/
def Supplier.Overlooks (region : Location → Prop) (here : Location) : Supplier → Prop
  | code supply => ∀ disk disk' : Disk, disk.here = here → disk.Alike region disk' →
    supply disk' = supply disk
  | dataFile path => ∀ l ∈ path.trail here, ¬region l

/-- Whether no controller depends on what is in a region, nor on dates. -/
def ControllerRegistry.Overlooks (registry : ControllerRegistry) (region : Location → Prop)
    (here : Location) : Prop :=
  ∀ controller ∈ registry.controllers, controller.supplier.Overlooks region here

variable {region region' : Location → Prop} {here : Location} {disk disk' : Disk}

theorem Supplier.Overlooks.mono {supplier : Supplier} (h : supplier.Overlooks region here)
    (hregion : ∀ l, region' l → region l) : supplier.Overlooks region' here := by
  cases supplier with
  | code supply => exact fun disk disk' hhere halike ↦ h disk disk' hhere (halike.mono hregion)
  | dataFile path => exact fun l hl hin ↦ h l hl (hregion l hin)

theorem ControllerRegistry.Overlooks.mono {registry : ControllerRegistry}
    (h : registry.Overlooks region here) (hregion : ∀ l, region' l → region l) :
    registry.Overlooks region' here :=
  fun controller hcontroller ↦ (h controller hcontroller).mono hregion

theorem Controller.supply_alike {controller : Controller} (halike : disk.Alike region disk')
    (h : controller.supplier.Overlooks region disk.here) :
    controller.supply disk' = controller.supply disk := by
  rw [supply, supply]
  cases hsupplier : controller.supplier with
  | code supply =>
    rw [hsupplier] at h
    exact h disk disk' rfl halike
  | dataFile path =>
    rw [hsupplier] at h
    have hread : disk'.readText path = disk.readText path := by
      rw [readText, readText, halike.read h]
    simp only [loadData, hread]

theorem ControllerRegistry.supplyAll_alike (halike : disk.Alike region disk') (view : Text)
    (controllers : List Controller)
    (h : ∀ controller ∈ controllers, controller.supplier.Overlooks region disk.here)
    (data : ViewData) :
    supplyAll view disk' data controllers = supplyAll view disk data controllers := by
  induction controllers generalizing data with
  | nil => rfl
  | cons controller rest ih =>
    rw [supplyAll, supplyAll, Controller.supply_alike halike (h controller List.mem_cons_self)]
    split
    · rfl
    · rw [ih fun c hc ↦ h c (List.mem_cons_of_mem _ hc)]

/-- On disks that look alike, controllers that overlook the difference supply the same. -/
theorem ControllerRegistry.resolve_alike {registry : ControllerRegistry}
    (h : registry.Overlooks region disk.here) (halike : disk.Alike region disk') (view : Text) :
    registry.resolve view disk' = registry.resolve view disk :=
  supplyAll_alike halike view _ (fun controller hcontroller ↦
    h controller (List.mem_filter.mp hcontroller).1) []

end CompiledViews
