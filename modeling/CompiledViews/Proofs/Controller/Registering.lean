import CompiledViews.Proofs.Controller.Merging
import CompiledViews.Proofs.Failing

/-!
# Registering controllers

References are built one after the other, and each controller is registered, and shown to the hooks,
before the next reference is looked at. So a factory that fails leaves behind what came before it,
and what comes after it is never looked at.

All of this follows from one equation, for references of which the first ones can be built: to
register them is to register the rest in the registry that has grown by their controllers. The hooks
are the same for all references of a call, since only other calls add hooks.

## Whose records they are

A hook shows in what it records. Where its records can be told from those of all other hooks, they
are picked out of the records of a whole run, and say for which controllers it was called.
-/

namespace CompiledViews

/-- What comes of registering more after a call: nothing if that has failed. -/
def Registration.andThen (first : Registration) (references : List ControllerReference) :
    Registration :=
  match first.result with
  | .error _ => first
  | .ok () =>
    let second := first.registry.register references
    { second with booted := first.booted ++ second.booted, built := first.built + second.built }

namespace ControllerRegistry

variable {registry : ControllerRegistry} {hook : Controller → Text} {controllers : List Controller}
  {references before : List ControllerReference} {failing : ControllerReference}
  {error : ControllerError}

/-! ## One call -/

/-- Registering all at once is registering a part and then, if that has not failed, the rest. -/
theorem register_append (registry : ControllerRegistry) (first second : List ControllerReference) :
    registry.register (first ++ second) = (registry.register first).andThen second := by
  induction first generalizing registry with
  | nil => simp [register, Registration.andThen]
  | cons reference rest ih =>
    rw [List.cons_append, register, register]
    -- if the first one fails, both sides have stopped there
    cases reference.build with
    | error error => rfl
    | ok controller =>
      dsimp only
      rw [ih]
      rcases (registry.add controller).register rest with ⟨registered, booted, built, _ | ⟨⟩⟩
      · rfl
      · simp [Registration.andThen, Nat.add_assoc]

def addAll (registry : ControllerRegistry) (controllers : List Controller) : ControllerRegistry :=
  { registry with controllers := registry.controllers ++ controllers }

theorem register_of_mapM (h : references.mapM ControllerReference.build = .ok controllers)
    (registry : ControllerRegistry) :
    registry.register references = ⟨registry.addAll controllers, controllers.flatMap registry.boot,
      references.countP (·.isFactory), .ok ()⟩ := by
  induction references generalizing registry controllers with
  | nil =>
    cases h
    simp [register, addAll]
  | cons reference rest ih =>
    rw [List.mapM_cons] at h
    obtain ⟨controller, hfirst, h⟩ := bind_eq_ok_iff.mp h
    obtain ⟨others, hothers, h⟩ := bind_eq_ok_iff.mp h
    cases h
    have hadd :
        (registry.add controller).addAll others = registry.addAll (controller :: others) := by
      simp [add, addAll]
    have hboot : (registry.add controller).boot = registry.boot := rfl
    rw [register, hfirst]
    dsimp only
    rw [ih hothers, hadd, hboot, List.countP_cons, Nat.add_comm (List.countP _ rest)]
    rfl

theorem build_eq_error_iff : failing.build = .error error ↔
    ∃ failure, failing = .factory (.error failure) ∧ error = .factory failure := by
  constructor
  · intro h
    cases failing with
    | ready controller => cases h
    | factory build =>
      obtain ⟨failure, rfl, rfl⟩ := mapError_eq_error_iff.mp h
      exact ⟨failure, rfl, rfl⟩
  · rintro ⟨failure, rfl, rfl⟩
    rfl

theorem register_of_failure (h : before.mapM ControllerReference.build = .ok controllers)
    (hfailing : failing.build = .error error) (registry : ControllerRegistry)
    (after : List ControllerReference) :
    registry.register (before ++ failing :: after) = ⟨registry.addAll controllers,
      controllers.flatMap registry.boot, before.countP (·.isFactory) + 1, .error error⟩ := by
  have hlast : (registry.addAll controllers).register (failing :: after)
      = ⟨registry.addAll controllers, [], 1, .error error⟩ := by
    obtain ⟨failure, rfl, rfl⟩ := build_eq_error_iff.mp hfailing
    rfl
  rw [register_append, register_of_mapM h, Registration.andThen]
  dsimp only
  rw [hlast, List.append_nil]

/-! ## Runs -/

def Call.hooks : Call → List (Controller → Text)
  | onBoot hook => [hook]
  | register _ => []

/-- What the hooks record of a call. -/
def recordsOf (registry : ControllerRegistry) : Call → List Text
  | .onBoot _ => []
  | .register references => (registry.register references).booted

/-- What the hooks record of one call after the other. -/
def records (registry : ControllerRegistry) : List Call → List Text
  | [] => []
  | call :: rest => registry.recordsOf call ++ (registry.perform call).records rest

theorem hooks_register (registry : ControllerRegistry) (references : List ControllerReference) :
    (registry.register references).registry.hooks = registry.hooks := by
  induction references generalizing registry with
  | nil => rfl
  | cons reference rest ih =>
    rw [register]
    cases reference.build with
    | error error => rfl
    | ok controller => exact ih (registry.add controller)

theorem hooks_perform (registry : ControllerRegistry) (call : Call) :
    (registry.perform call).hooks = registry.hooks ++ call.hooks := by
  cases call with
  | onBoot hook => rfl
  | register references =>
    rw [perform, hooks_register, Call.hooks, List.append_nil]

theorem hooks_after (registry : ControllerRegistry) (calls : List Call) :
    (registry.after calls).hooks = registry.hooks ++ calls.flatMap Call.hooks := by
  rw [after]
  induction calls generalizing registry with
  | nil => simp
  | cons call rest ih =>
    rw [List.foldl_cons, ih, hooks_perform, List.flatMap_cons, List.append_assoc]

/-- Each controller is shown to each hook once, in the order of controllers first. -/
theorem booted_register (registry : ControllerRegistry) (references : List ControllerReference) :
    (registry.register references).booted = (built references).flatMap registry.boot := by
  induction references generalizing registry with
  | nil => rfl
  | cons reference rest ih =>
    rw [register, built]
    cases reference.build with
    | error error => rfl
    | ok controller =>
      rw [List.flatMap_cons, ← show (registry.add controller).boot = registry.boot from rfl, ← ih]

theorem recordsOf_eq (registry : ControllerRegistry) (call : Call) :
    registry.recordsOf call = call.controllers.flatMap registry.boot := by
  cases call with
  | onBoot hook => rfl
  | register references => exact booted_register registry references

theorem records_append (registry : ControllerRegistry) (calls later : List Call) :
    registry.records (calls ++ later)
      = registry.records calls ++ (registry.after calls).records later := by
  induction calls generalizing registry with
  | nil => rfl
  | cons call rest ih =>
    rw [List.cons_append, records, records, ih, List.append_assoc]
    rfl

/-! ## The records of one hook -/

/-- Whether the records of a hook can be told from those of other hooks. -/
structure Marks (mark : Text → Bool) (hook : Controller → Text)
    (others : List (Controller → Text)) : Prop where
  own : ∀ controller, mark (hook controller) = true
  others : ∀ other ∈ others, ∀ controller, mark (other controller) = false

theorem Marks.filter_boot_eq_nil {mark : Text → Bool}
    (h : ∀ other ∈ registry.hooks, ∀ controller, mark (other controller) = false)
    (controllers : List Controller) : (controllers.flatMap registry.boot).filter mark = [] := by
  rw [List.filter_eq_nil_iff]
  intro text htext
  obtain ⟨controller, -, htext⟩ := List.mem_flatMap.mp htext
  obtain ⟨other, hother, rfl⟩ := List.mem_map.mp htext
  simp [h other hother controller]

theorem filter_records_before {mark : Text → Bool} (calls : List Call)
    (h : ∀ other ∈ (registry.after calls).hooks, ∀ controller, mark (other controller) = false) :
    (registry.records calls).filter mark = [] := by
  induction calls generalizing registry with
  | nil => rfl
  | cons call rest ih =>
    have hhooks : ∀ other ∈ registry.hooks, ∀ controller, mark (other controller) = false := by
      intro other hother
      refine h other ?_
      rw [hooks_after]
      exact List.mem_append_left _ hother
    rw [records, List.filter_append, recordsOf_eq, Marks.filter_boot_eq_nil hhooks, ih h]
    rfl

theorem filter_records_of_mem {mark : Text → Bool} {older newer : List (Controller → Text)}
    (calls : List Call) (hregistry : registry.hooks = older ++ hook :: newer)
    (h : Marks mark hook (older ++ newer ++ calls.flatMap Call.hooks)) :
    (registry.records calls).filter mark = (calls.flatMap Call.controllers).map hook := by
  induction calls generalizing registry newer with
  | nil => rfl
  | cons call rest ih =>
    -- of all that the hooks record of one controller, the mark leaves what stands between the older
    -- hooks and the newer ones
    have hboot (controller : Controller) :
        (registry.boot controller).filter mark = [hook controller] := by
      have hothers (hooks : List (Controller → Text)) (hsub : ∀ other ∈ hooks,
          other ∈ older ++ newer ++ (call :: rest).flatMap Call.hooks) :
          (hooks.map fun other ↦ other controller).filter mark = [] := by
        rw [List.filter_eq_nil_iff]
        intro text htext
        obtain ⟨other, hother, rfl⟩ := List.mem_map.mp htext
        simp [h.others other (hsub other hother) controller]
      rw [boot, hregistry, List.map_append, List.filter_append, hothers older (by simp +contextual),
        List.map_cons, List.filter_cons_of_pos (h.own controller),
        hothers newer (by simp +contextual), List.nil_append]
    have hnext : (registry.perform call).hooks = older ++ hook :: (newer ++ call.hooks) := by
      rw [hooks_perform, hregistry, List.append_assoc, List.cons_append]
    have hmarks : Marks mark hook (older ++ (newer ++ call.hooks) ++ rest.flatMap Call.hooks) := by
      simpa [List.append_assoc] using h
    rw [records, List.filter_append, recordsOf_eq, ih hnext hmarks, List.filter_flatMap,
      List.flatMap_cons, List.map_append, funext hboot, ← List.map_eq_flatMap]

end ControllerRegistry

open ControllerRegistry

/-- **Registration.** A registry has the controllers built so far, in order. A call registers those
of all its references, or of those before the first factory that fails, which is then the last one
that is run; the answer is why it failed. Each controller is shown once to each hook there is, one
controller after the other; so a hook has recorded, in the course of a run, just the controllers
registered since it was added. And to register references in one call is to register a part of them
and, if that succeeds, the rest. -/
theorem register_sequential (calls : List Call) :
    (empty.after calls).controllers = calls.flatMap Call.controllers ∧
    (∀ references,
      (∃ controllers, references.mapM ControllerReference.build = .ok controllers ∧
        (empty.after calls).register references = ⟨(empty.after calls).addAll controllers,
          controllers.flatMap fun controller ↦ (calls.flatMap Call.hooks).map (· controller),
          references.countP (·.isFactory), .ok ()⟩) ∨
      ∃ before failure after controllers,
        references = before ++ .factory (.error failure) :: after ∧
        before.mapM ControllerReference.build = .ok controllers ∧
        (empty.after calls).register references = ⟨(empty.after calls).addAll controllers,
          controllers.flatMap fun controller ↦ (calls.flatMap Call.hooks).map (· controller),
          before.countP (·.isFactory) + 1, .error (.factory failure)⟩) ∧
    (∀ hook later mark, Marks mark hook ((calls ++ later).flatMap Call.hooks) →
      (empty.records (calls ++ .onBoot hook :: later)).filter mark
        = (later.flatMap Call.controllers).map hook) ∧
    ∀ first second, (empty.after calls).register (first ++ second)
      = ((empty.after calls).register first).andThen second := by
  have hboot : (empty.after calls).boot
      = fun controller ↦ (calls.flatMap Call.hooks).map (· controller) := by
    funext controller
    rw [boot, hooks_after]
    rfl
  refine ⟨controllers_after empty calls, fun references ↦ ?_, fun hook later mark h ↦ ?_,
    register_append (empty.after calls)⟩
  · rw [← hboot]
    cases hbuilt : references.mapM ControllerReference.build with
    | ok controllers => exact .inl ⟨controllers, rfl, register_of_mapM hbuilt _⟩
    | error error =>
      obtain ⟨before, failing, after, controllers, rfl, hbefore, hfailing⟩ :=
        exists_first_of_mapM_eq_error hbuilt
      obtain ⟨failure, rfl, rfl⟩ := build_eq_error_iff.mp hfailing
      exact .inr ⟨before, failure, after, controllers, rfl, hbefore,
        register_of_failure hbefore hfailing _ after⟩
  · have hbefore : (empty.records calls).filter mark = [] := by
      refine filter_records_before calls fun other hother ↦ h.others other ?_
      rw [hooks_after] at hother
      rw [List.flatMap_append]
      exact List.mem_append_left _ hother
    have hhooks : ((empty.after calls).onBoot hook).hooks
        = calls.flatMap Call.hooks ++ hook :: [] := by
      rw [onBoot, hooks_after]
      rfl
    rw [records_append, List.filter_append, hbefore, List.nil_append, records, recordsOf,
      List.nil_append]
    refine filter_records_of_mem later hhooks ?_
    rwa [List.append_nil, ← List.flatMap_append]

/-! ### A factory that fails between two others -/

/-- A hook that records a letter and the controller's name. -/
def tagging (tag : Char) (controller : Controller) : Text := tag :: controller.name

def startedCalls : List Call := [.onBoot (tagging 'a'), .register [.ready (supplying "first" [])]]

def interruptedReferences : List ControllerReference :=
  [.factory (.ok (supplying "second" [])), .factory (.error (.other "oops".toList)),
    .factory (.ok (supplying "third" []))]

/-- The hook that was added last has seen the second controller only, and of three factories two
were run. -/
theorem register_sequential_interrupted :
    Marks (·.head? == some 'b') (tagging 'b')
      ((startedCalls ++ [Call.register interruptedReferences]).flatMap Call.hooks) ∧
    (empty.records
        (startedCalls ++ [.onBoot (tagging 'b'), .register interruptedReferences])).filter
      (·.head? == some 'b') = ["bsecond".toList] ∧
    (empty.records (startedCalls ++ [.onBoot (tagging 'b'), .register interruptedReferences]))
      = ["afirst".toList, "asecond".toList, "bsecond".toList] ∧
    (∃ before failure after controllers,
      interruptedReferences = before ++ .factory (.error failure) :: after ∧
      before.mapM ControllerReference.build = .ok controllers ∧
      (empty.after startedCalls).register interruptedReferences
        = ⟨(empty.after startedCalls).addAll controllers,
          controllers.flatMap fun controller ↦ (startedCalls.flatMap Call.hooks).map (· controller),
          before.countP (·.isFactory) + 1, .error (.factory failure)⟩) ∧
    ((empty.after startedCalls).register interruptedReferences).built = 2 := by
  obtain ⟨-, hcalls, hrecords, -⟩ := register_sequential startedCalls
  have hmarks : Marks (·.head? == some 'b') (tagging 'b')
      ((startedCalls ++ [Call.register interruptedReferences]).flatMap Call.hooks) := by
    refine ⟨fun controller ↦ rfl, fun other hother controller ↦ ?_⟩
    obtain rfl := List.mem_singleton.mp hother
    rfl
  refine ⟨hmarks, hrecords _ _ _ hmarks, rfl, (hcalls interruptedReferences).resolve_left ?_, rfl⟩
  rintro ⟨controllers, hbuilt, -⟩
  cases hbuilt

end CompiledViews
