import CompiledViews.Controller.Registry
import CompiledViews.Proofs.Entries

/-!
# Merging what controllers supply

Controllers that serve a view are asked in the order of their registration until one fails. If none
does, all that is supplied is merged, and for a key that several of them supply the last one counts.

Data are merged step by step, from what has been merged before, so what is said of them is said for
data at the start that may already have values; a value from there counts for the keys that nobody
supplies. It is also said that these data may as well be merged in at the end, which is why
resolving what has been registered in two parts is resolving the parts one after the other.
-/

namespace CompiledViews

/-! ## Registries reached by calls -/

namespace ControllerRegistry

/-- Something that is done to a registry. -/
inductive Call
  | onBoot (hook : Controller → Text)
  | register (references : List ControllerReference)

def perform (registry : ControllerRegistry) : Call → ControllerRegistry
  | .onBoot hook => registry.onBoot hook
  | .register references => (registry.register references).registry

/-- The registry after one call after the other. -/
def after (registry : ControllerRegistry) (calls : List Call) : ControllerRegistry :=
  calls.foldl perform registry

/-- The controllers that references stand for, up to the first factory that fails. -/
def built : List ControllerReference → List Controller
  | [] => []
  | reference :: rest =>
    match reference.build with
    | .error _ => []
    | .ok controller => controller :: built rest

def Call.controllers : Call → List Controller
  | onBoot _ => []
  | register references => built references

theorem controllers_register (registry : ControllerRegistry)
    (references : List ControllerReference) :
    (registry.register references).registry.controllers
      = registry.controllers ++ built references := by
  induction references generalizing registry with
  | nil => simp [register, built]
  | cons reference rest ih =>
    rw [register, built]
    cases reference.build with
    | error error => simp
    | ok controller => simp [ih, add]

theorem controllers_perform (registry : ControllerRegistry) (call : Call) :
    (registry.perform call).controllers = registry.controllers ++ call.controllers := by
  cases call with
  | onBoot hook => simp [perform, onBoot, Call.controllers]
  | register references => exact controllers_register registry references

/-- Whatever is done to a registry, it has the controllers that were registered, in order. -/
theorem controllers_after (registry : ControllerRegistry) (calls : List Call) :
    (registry.after calls).controllers
      = registry.controllers ++ calls.flatMap Call.controllers := by
  rw [after]
  induction calls generalizing registry with
  | nil => simp
  | cons call rest ih =>
    rw [List.foldl_cons, ih, controllers_perform, List.flatMap_cons, List.append_assoc]

end ControllerRegistry

/-! ## What is supplied for a key -/

/-- Whether a controller supplies a value for a key. -/
def Controller.Supplies (controller : Controller) (disk : Disk) (key : Text) (value : Value) :
    Prop :=
  ∃ data, controller.supply disk = .ok data ∧ (Entries.ofList data).get? key = some value

/-- Whether a value is what the last of some controllers that supplies any value for a key supplies
for it. -/
def LastSupplied (disk : Disk) (key : Text) (value : Value) (controllers : List Controller) :
    Prop :=
  ∃ before controller after, controllers = before ++ controller :: after ∧
    controller.Supplies disk key value ∧
      ∀ later ∈ after, ∀ other, ¬later.Supplies disk key other

variable {disk : Disk} {key : Text} {value : Value} {controller : Controller}
  {controllers : List Controller} {data : ViewData}

theorem Controller.supplies_iff (h : controller.supply disk = .ok data) :
    controller.Supplies disk key value ↔ List.lookup key data.reverse = some value := by
  rw [← Entries.get?_ofList]
  refine ⟨fun ⟨supplied, hsupplied, hvalue⟩ ↦ ?_, fun hvalue ↦ ⟨data, h, hvalue⟩⟩
  cases hsupplied.symm.trans h
  exact hvalue

/-- Of a controller and those after it, the last that supplies a value is one of those, or the
controller if none of those does. -/
theorem lastSupplied_cons :
    LastSupplied disk key value (controller :: controllers) ↔
      LastSupplied disk key value controllers ∨
        controller.Supplies disk key value ∧
          ∀ later ∈ controllers, ∀ other, ¬later.Supplies disk key other := by
  constructor
  · rintro ⟨before, c, after, hsplit, hc, hafter⟩
    rcases List.cons_eq_append_iff.mp hsplit with ⟨-, hfirst⟩ | ⟨before, -, hrest⟩
    · cases hfirst
      exact .inr ⟨hc, hafter⟩
    · exact .inl ⟨before, c, after, hrest, hc, hafter⟩
  · rintro (⟨before, c, after, rfl, hc, hafter⟩ | ⟨hc, hafter⟩)
    · exact ⟨controller :: before, c, after, rfl, hc, hafter⟩
    · exact ⟨[], controller, controllers, rfl, hc, hafter⟩

theorem exists_lastSupplied_iff :
    (∃ value, LastSupplied disk key value controllers) ↔
      ∃ controller ∈ controllers, ∃ value, controller.Supplies disk key value := by
  constructor
  · rintro ⟨value, before, controller, after, rfl, hsupplies, -⟩
    exact ⟨controller, by simp, value, hsupplies⟩
  · induction controllers with
    | nil => simp
    | cons first rest ih =>
      rintro ⟨controller, hmem, value, hsupplies⟩
      by_cases hrest : ∃ later ∈ rest, ∃ other, later.Supplies disk key other
      · obtain ⟨last, hlast⟩ := ih hrest
        exact ⟨last, lastSupplied_cons.mpr (.inl hlast)⟩
      · rcases List.mem_cons.mp hmem with rfl | hmem
        · exact ⟨value, lastSupplied_cons.mpr (.inr ⟨hsupplies, fun later hlater other hother ↦
            hrest ⟨later, hlater, other, hother⟩⟩)⟩
        · exact absurd ⟨controller, hmem, value, hsupplies⟩ hrest

namespace ControllerRegistry

/-! ## Asking one controller after the other -/

/-- Where all controllers supply data, all are asked, and for each key the last value counts. -/
theorem supplyAll_of_supply (view : Text)
    (h : ∀ controller ∈ controllers, ∃ supplied, controller.supply disk = .ok supplied)
    (data : ViewData) :
    ∃ merged, supplyAll view disk data controllers = ⟨controllers, .ok merged⟩ ∧
      (data.Ordered → merged.Ordered) ∧
      ∀ key value, merged.get? key = some value ↔ LastSupplied disk key value controllers ∨
        data.get? key = some value ∧
          ∀ controller ∈ controllers, ∀ other, ¬controller.Supplies disk key other := by
  induction controllers generalizing data with
  | nil =>
    refine ⟨data, rfl, id, fun key value ↦ ?_⟩
    simp [LastSupplied]
  | cons controller rest ih =>
    obtain ⟨supplied, hsupplied⟩ := h controller List.mem_cons_self
    obtain ⟨merged, hrun, hordered, hvalues⟩ :=
      ih (fun c hc ↦ h c (List.mem_cons_of_mem _ hc)) (data.merge supplied)
    refine ⟨merged, ?_, fun hdata ↦ hordered (hdata.merge supplied), fun key value ↦ ?_⟩
    · rw [supplyAll, hsupplied]
      dsimp only
      rw [hrun]
    · have hnone : (∀ other, ¬controller.Supplies disk key other) ↔
          List.lookup key supplied.reverse = none := by
        simp only [Controller.supplies_iff hsupplied, Option.eq_none_iff_forall_ne_some, ne_eq]
      rw [hvalues, lastSupplied_cons, Entries.get?_merge, Option.or_eq_some_iff,
        Controller.supplies_iff hsupplied, List.forall_mem_cons, hnone]
      tauto

theorem supplyAll_of_failure (view : Text) {before after : List Controller} {failing : Controller}
    {failure : Failure} (hbefore : ∀ controller ∈ before, ∃ data, controller.supply disk = .ok data)
    (hfailure : failing.supply disk = .error failure) (data : ViewData) :
    supplyAll view disk data (before ++ failing :: after)
      = ⟨before ++ [failing], .error (.process failing.name view failure)⟩ := by
  induction before generalizing data with
  | nil => rw [List.nil_append, supplyAll, hfailure, List.nil_append]
  | cons controller rest ih =>
    obtain ⟨supplied, hsupplied⟩ := hbefore controller List.mem_cons_self
    rw [List.cons_append, supplyAll, hsupplied]
    dsimp only
    rw [ih fun c hc ↦ hbefore c (List.mem_cons_of_mem _ hc)]
    rfl

theorem supplyAll_merge (view : Text) (hdata : data.Ordered) {acc : ViewData} (hacc : acc.Ordered)
    (controllers : List Controller) :
    supplyAll view disk (data.merge acc) controllers =
      { supplyAll view disk acc controllers with
        result := (supplyAll view disk acc controllers).result.map data.merge } := by
  induction controllers generalizing acc with
  | nil => rfl
  | cons controller rest ih =>
    rw [supplyAll, supplyAll]
    cases controller.supply disk with
    | error failure => rfl
    | ok supplied =>
      dsimp only
      rw [← hdata.merge_assoc hacc, ih (hacc.merge supplied)]

end ControllerRegistry

/-- What comes of two resolutions, one after the other: the second is made if the first has not
failed, and what it finds replaces what the first has found. -/
def Resolution.andThen (first second : Resolution) : Resolution :=
  match first.result with
  | .error _ => first
  | .ok data => ⟨first.called ++ second.called, second.result.map data.merge⟩

namespace ControllerRegistry

/-- Asking more controllers is asking those, and merging what they supply with what there is. -/
theorem supplyAll_append (view : Text) (h : data.Ordered) (first second : List Controller) :
    supplyAll view disk data (first ++ second)
      = (supplyAll view disk data first).andThen (supplyAll view disk [] second) := by
  induction first generalizing data with
  | nil => exact supplyAll_merge view h List.Pairwise.nil second
  | cons controller rest ih =>
    rw [List.cons_append, supplyAll, supplyAll]
    cases controller.supply disk with
    | error failure => rfl
    | ok supplied =>
      dsimp only
      rw [ih (h.merge supplied)]
      rcases supplyAll view disk (data.merge supplied) rest with ⟨called, _ | merged⟩ <;> rfl

/-- Resolving with the controllers of two registries is resolving with one and then with the
other. -/
theorem resolve_of_append {registry first second : ControllerRegistry}
    (h : registry.controllers = first.controllers ++ second.controllers) (view : Text)
    (disk : Disk) :
    registry.resolve view disk = (first.resolve view disk).andThen (second.resolve view disk) := by
  rw [resolve, bound, h, List.filter_append]
  exact supplyAll_append view List.Pairwise.nil _ _

end ControllerRegistry

open ControllerRegistry in
/-- **Resolution.** The controllers bound to a view are those registered that name it. If all of
them supply data, each is asked once, in the order of registration, and each key that any of them
supplies has the value of the last that does. If one fails, the first that does is the last that is
asked, and the answer is its failure. So what has been registered in two parts is resolved part by
part. -/
theorem resolve_merges (calls : List Call) (view : Text) (disk : Disk) :
    ((empty.after calls).bound view
      = (calls.flatMap Call.controllers).filter fun controller ↦ view ∈ controller.views) ∧
    ((∀ controller ∈ (empty.after calls).bound view, ∃ data, controller.supply disk = .ok data) →
      ∃ data : ViewData,
        (empty.after calls).resolve view disk = ⟨(empty.after calls).bound view, .ok data⟩ ∧
        data.Ordered ∧
        (∀ key, key ∈ data.keys ↔ ∃ controller ∈ (empty.after calls).bound view,
          ∃ value, controller.Supplies disk key value) ∧
        ∀ key value, data.get? key = some value ↔
          LastSupplied disk key value ((empty.after calls).bound view)) ∧
    (∀ before failing after failure,
      (empty.after calls).bound view = before ++ failing :: after →
      (∀ controller ∈ before, ∃ data, controller.supply disk = .ok data) →
      failing.supply disk = .error failure →
        (empty.after calls).resolve view disk
          = ⟨before ++ [failing], .error (.process failing.name view failure)⟩) ∧
    ∀ later, (empty.after (calls ++ later)).resolve view disk =
      ((empty.after calls).resolve view disk).andThen ((empty.after later).resolve view disk) := by
  refine ⟨?_, fun hall ↦ ?_, fun before failing after failure hbound hbefore hfailure ↦ ?_,
    fun later ↦ ?_⟩
  · rw [bound, controllers_after]
    simp [Controller.serves, empty]
  · obtain ⟨data, hresolve, hordered, hvalues⟩ := supplyAll_of_supply view hall []
    have hlast : ∀ key value, data.get? key = some value ↔
        LastSupplied disk key value ((empty.after calls).bound view) := by
      intro key value
      rw [hvalues, Entries.get?, List.lookup_nil]
      simp
    refine ⟨data, hresolve, hordered List.Pairwise.nil, fun key ↦ ?_, hlast⟩
    rw [Entries.mem_keys_iff, Option.isSome_iff_exists]
    simp only [hlast]
    exact exists_lastSupplied_iff
  · rw [resolve, hbound]
    exact supplyAll_of_failure view hbefore hfailure []
  · refine resolve_of_append ?_ view disk
    simp [controllers_after, empty]

/-! ### Two controllers and a broken one -/

/-- A controller that supplies the same data each time. -/
def supplying (name : String) (data : ViewData) : Controller :=
  ⟨name.toList, ["home".toList], .code fun _ ↦ .ok data⟩

/-- A controller that names its view twice, and fails. -/
def broken : Controller :=
  ⟨"broken".toList, ["home".toList, "home".toList], .code fun _ ↦ .error (.other "oops".toList)⟩

/-- Two controllers that both supply a value for `a`. -/
def overlapping : List Controller :=
  [supplying "first" [("a".toList, .int 1)],
    supplying "second" [("a".toList, .int 2), ("b".toList, .int 3)]]

open ControllerRegistry in
/-- The last value counts, and what comes after a failure is not asked. -/
theorem resolve_merges_overlapping :
    (∃ data, (empty.after [.register (overlapping.map .ready)]).resolve "home".toList ⟨[], 0, []⟩
        = ⟨overlapping, .ok data⟩ ∧ data.get? "a".toList = some (.int 2)) ∧
    (empty.after [.register ((broken :: overlapping).map .ready)]).resolve "home".toList ⟨[], 0, []⟩
      = ⟨[broken], .error (.process "broken".toList "home".toList (.other "oops".toList))⟩ := by
  have hbound : (empty.after [.register (overlapping.map .ready)]).bound "home".toList
      = overlapping := rfl
  have hall : ∀ controller ∈ overlapping, ∃ data,
      controller.supply (⟨[], 0, []⟩ : Disk) = .ok data := by
    intro controller hcontroller
    rcases List.mem_cons.mp hcontroller with rfl | hcontroller
    · exact ⟨_, rfl⟩
    · obtain rfl := List.mem_singleton.mp hcontroller
      exact ⟨_, rfl⟩
  constructor
  · obtain ⟨-, hmerges, -⟩ :=
      resolve_merges [.register (overlapping.map .ready)] "home".toList ⟨[], 0, []⟩
    obtain ⟨data, hresolve, -, -, hvalues⟩ := hmerges hall
    rw [hbound] at hresolve hvalues
    refine ⟨data, hresolve, (hvalues _ _).mpr ?_⟩
    exact ⟨[supplying "first" [("a".toList, .int 1)]], _, [], rfl, ⟨_, rfl, rfl⟩, by simp⟩
  · obtain ⟨-, -, hfails, -⟩ :=
      resolve_merges [.register ((broken :: overlapping).map .ready)] "home".toList ⟨[], 0, []⟩
    exact hfails [] broken overlapping _ rfl (by simp) rfl

end CompiledViews
