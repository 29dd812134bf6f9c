import CompiledViews.Directive.Builtin
import CompiledViews.Proofs.Failing
import Mathlib.Data.List.Basic

/-!
# Registries that can come about

A registry begins empty and is changed by registrations only. A call that fails leaves the registry
that there was, so it is enough to follow those that succeed. Each name has one rule at any time:
a rule that is registered again takes the place of the one before.
-/

namespace CompiledViews.Directive

/-- Whether a registry can come about by registrations. -/
inductive Registry.Reachable : Registry → Prop
  | empty : Reachable .empty
  | register {registry : Registry} (rule : Rule) (h : Reachable registry) :
    Reachable (registry.register rule)
  | directive {registry registry' : Registry} (name : Text) (handler : Option Text → Text)
    (h : Reachable registry) (hregister : registry.directive name handler = .ok registry') :
    Reachable registry'
  | builtins {registry registry' : Registry} (filter : Text) (h : Reachable registry)
    (hregister : registry.registerBuiltins filter = .ok registry') : Reachable registry'

namespace Registry

variable {registry : Registry} {name : Text}

theorem place_eq (rules : List Rule) (rule : Rule) (h : rule.name ∉ rules.map (·.name)) :
    place rule rules = rules ++ [rule] := by
  induction rules with
  | nil => rfl
  | cons first rest ih =>
    rw [List.map_cons, List.mem_cons, not_or] at h
    rw [place, if_neg (Ne.symm h.1), ih h.2, List.cons_append]

theorem map_name_place (rules : List Rule) (rule : Rule) :
    (place rule rules).map (·.name) =
      if rule.name ∈ rules.map (·.name) then rules.map (·.name)
      else rules.map (·.name) ++ [rule.name] := by
  induction rules with
  | nil => rfl
  | cons first rest ih =>
    rw [place]
    by_cases hfirst : first.name = rule.name
    · simp [hfirst]
    · rw [if_neg hfirst, List.map_cons, List.map_cons, ih]
      by_cases hrest : rule.name ∈ rest.map (·.name)
      · rw [if_pos hrest, if_pos (List.mem_cons_of_mem _ hrest)]
      · rw [if_neg hrest, if_neg (by simp [Ne.symm hfirst, hrest]), List.cons_append]

theorem nodup_register (h : registry.names.Nodup) (rule : Rule) :
    (registry.register rule).names.Nodup := by
  change ((place rule registry.rules).map (·.name)).Nodup
  rw [map_name_place]
  split
  · exact h
  · next hnew => exact List.nodup_append.mpr ⟨h, by simp, by simpa using hnew⟩

theorem nodup_registerAll (h : registry.names.Nodup) (rules : List Rule) :
    (registry.registerAll rules).names.Nodup := by
  induction rules generalizing registry with
  | nil => exact h
  | cons rule rest ih => exact ih (nodup_register h rule)

theorem registerAll_eq (rules : List Rule) (h : (registry.names ++ rules.map (·.name)).Nodup) :
    registry.registerAll rules = ⟨registry.rules ++ rules⟩ := by
  induction rules generalizing registry with
  | nil => rw [List.append_nil]; rfl
  | cons rule rest ih =>
    have hnew : rule.name ∉ registry.rules.map (·.name) := by
      intro hold
      exact (List.nodup_append.mp h).2.2 _ hold _ (by simp) rfl
    have hregister : registry.register rule = ⟨registry.rules ++ [rule]⟩ := by
      rw [register, place_eq _ _ hnew]
    have hrest : ((registry.register rule).names ++ rest.map (·.name)).Nodup := by
      rw [hregister]
      simpa [names, List.append_assoc] using h
    change (registry.register rule).registerAll rest = _
    rw [ih hrest, hregister, List.append_assoc, List.singleton_append]

theorem Reachable.nodup_names (h : registry.Reachable) : registry.names.Nodup := by
  induction h with
  | empty => exact List.nodup_nil
  | register rule _ ih => exact nodup_register ih rule
  | directive name handler _ hregister ih =>
    rw [Registry.directive] at hregister
    obtain ⟨rule, -, hregister⟩ := bind_eq_ok_iff.mp hregister
    cases hregister
    exact nodup_register ih rule
  | builtins filter _ hregister ih =>
    rw [registerBuiltins] at hregister
    split at hregister
    · cases hregister
      exact nodup_registerAll ih _
    · cases hregister

theorem isIdentifier_of_mem_names (h : name ∈ registry.names) : name.isIdentifier = true := by
  obtain ⟨rule, -, rfl⟩ := List.mem_map.mp h
  exact rule.name_isIdentifier

end Registry

end CompiledViews.Directive
