import CompiledViews.Text.Basic

/-!
# Capabilities

A capability is a named ability of the surroundings. Which ones are available changes while the
program runs, so a rule asks each time it expands and never when it is registered.
-/

namespace CompiledViews

/-- The names of the capabilities that are available now. -/
structure Capabilities where
  /-- The available names; a name listed twice is available just the same. -/
  names : List Text
  deriving DecidableEq, Inhabited

namespace Capabilities

def none : Capabilities := ⟨[]⟩

def has (available : Capabilities) (name : Text) : Bool := available.names.contains name

def enable (available : Capabilities) (name : Text) : Capabilities :=
  ⟨if available.has name then available.names else name :: available.names⟩

def disable (available : Capabilities) (name : Text) : Capabilities :=
  ⟨available.names.filter (· != name)⟩

@[simp]
theorem has_enable (available : Capabilities) (name other : Text) :
    (available.enable name).has other = (other == name || available.has other) := by
  unfold enable has
  split
  · next h =>
    by_cases e : other = name
    · simp_all
    · simp [beq_eq_false_iff_ne.mpr e]
  · rw [Bool.eq_iff_iff]
    simp

@[simp]
theorem has_disable (available : Capabilities) (name other : Text) :
    (available.disable name).has other = (other != name && available.has other) := by
  rw [Bool.eq_iff_iff]
  simp [disable, has, and_comm]

end Capabilities

end CompiledViews
