import CompiledViews.Proofs.Failing
import CompiledViews.Template.Evaluation

/-!
# What values are refused for

Operators, filters and tests refuse values that they are not for. None of those that every template
has looks for a view, so none of them is ever refused for want of one; only what a host adds might
be.
-/

namespace CompiledViews.Template

/-! ## Operators -/

/-- Whether values are refused, if they are, because the operation is not for them. -/
def OnlyInvalid {α : Type} (result : Except FaultKind α) : Prop :=
  ∀ kind, result = .error kind → kind = .invalidOperation

namespace OnlyInvalid

variable {α β : Type}

theorem ok (a : α) : OnlyInvalid (.ok a) := nofun

theorem error : OnlyInvalid (.error .invalidOperation : Except FaultKind α) := by
  rintro kind ⟨⟩
  rfl

theorem bind {result : Except FaultKind α} {f : α → Except FaultKind β} (h : OnlyInvalid result)
    (hf : ∀ a, OnlyInvalid (f a)) : OnlyInvalid (result >>= f) := by
  intro kind hkind
  rcases bind_eq_error_iff.mp hkind with hfirst | ⟨a, -, hrest⟩
  · exact h kind hfirst
  · exact hf a kind hrest

theorem map {result : Except FaultKind α} (h : OnlyInvalid result) (f : α → β) :
    OnlyInvalid (result.map f) := fun kind hkind ↦ h kind (map_eq_error_iff.mp hkind)

end OnlyInvalid

namespace Operator

theorem onlyInvalid_integer (i : Int) : OnlyInvalid (integer i) := by
  rw [integer]
  split
  · exact .ok _
  · exact .error

theorem onlyInvalid_arithmetic {ints : Int → Int → Except FaultKind Item}
    (h : ∀ i j, OnlyInvalid (ints i j)) (doubles : Double → Double → Double) (a b : Item) :
    OnlyInvalid (arithmetic ints doubles a b) := by
  rw [arithmetic]
  split
  · split
    · exact h _ _
    · exact .ok _
    · exact .error
  · exact .error

theorem onlyInvalid_sum (a b : Item) : OnlyInvalid (sum a b) := by
  rw [sum.eq_def]
  split
  · exact .ok _
  · split
    · exact .ok _
    · exact onlyInvalid_arithmetic (fun _ _ ↦ onlyInvalid_integer _) _ _ _

theorem onlyInvalid_repetitions (item : Item) : OnlyInvalid (repetitions item) := by
  rw [repetitions]
  split
  · split
    · exact .ok _
    · exact .error
  · exact .error

theorem onlyInvalid_product (a b : Item) : OnlyInvalid (product a b) := by
  have hrepeated : ∀ (item : Item) (f : Nat → Item),
      OnlyInvalid (do return f (← repetitions item)) := fun item f ↦
    (onlyInvalid_repetitions item).bind fun _ ↦ .ok _
  rw [product.eq_def]
  split
  · exact hrepeated _ _
  · exact hrepeated _ _
  · split
    · exact hrepeated _ _
    · exact hrepeated _ _
    · exact onlyInvalid_arithmetic (fun _ _ ↦ onlyInvalid_integer _) _ _ _

theorem onlyInvalid_quotient (a b : Item) : OnlyInvalid (quotient a b) := by
  rw [quotient]
  split
  · exact .ok _
  · exact .error

theorem onlyInvalid_division (f : Int → Int → Int) (i j : Int) : OnlyInvalid (division f i j) := by
  rw [division]
  split
  · exact .error
  · exact onlyInvalid_integer _

theorem onlyInvalid_integerPower (i j : Int) : OnlyInvalid (integerPower i j) := by
  rw [integerPower]
  split
  · exact .error
  · split
    · exact onlyInvalid_integer _
    · split
      · exact .error
      · exact onlyInvalid_integer _

theorem onlyInvalid_negate (item : Item) : OnlyInvalid (negate item) := by
  rw [negate.eq_def]
  split
  · exact .ok _
  · split
    · exact .ok _
    · split
      · exact onlyInvalid_integer _
      · exact .error
  · exact .error

theorem onlyInvalid_isMember (a b : Item) : OnlyInvalid (isMember a b) := by
  rw [isMember.eq_def]
  split <;> first | exact .ok _ | exact .error

theorem onlyInvalid_apply (operator : Operator) (a b : Item) :
    OnlyInvalid (operator.apply a b) := by
  cases operator with
  | add => exact onlyInvalid_sum a b
  | subtract => exact onlyInvalid_arithmetic (fun _ _ ↦ onlyInvalid_integer _) _ a b
  | multiply => exact onlyInvalid_product a b
  | divide => exact onlyInvalid_quotient a b
  | floorDivide => exact onlyInvalid_arithmetic (onlyInvalid_division _) _ a b
  | modulo => exact onlyInvalid_arithmetic (onlyInvalid_division _) _ a b
  | power => exact onlyInvalid_arithmetic onlyInvalid_integerPower _ a b
  | concatenate => exact .ok _

end Operator

theorem Comparison.onlyInvalid_apply (c : Comparison) (a b : Item) :
    OnlyInvalid (c.apply a b) := by
  cases c with
  | member => exact Operator.onlyInvalid_isMember a b
  | notMember => exact (Operator.onlyInvalid_isMember a b).map _
  | _ => exact .ok _

/-! ## Operations -/

/-- Whether an operation never fails for want of a view. -/
def Operation.NeedsNoView (operation : Operation) : Prop :=
  ∀ arguments fault, operation arguments = .error fault → fault.kind ≠ .templateNotFound

namespace Operation

theorem refuse_ne {kind : FaultKind} (h : kind ≠ .templateNotFound) {fault : Fault}
    (hrefuse : refuse kind = .error fault) : fault.kind ≠ .templateNotFound := by
  cases hrefuse
  exact h

theorem needsNoView_ofOne {f : Item → Except FaultKind Item} (h : ∀ a, OnlyInvalid (f a)) :
    (ofOne f).NeedsNoView := by
  intro arguments fault hfault
  rw [ofOne.eq_def] at hfault
  split at hfault
  · exact refuse_ne (by decide) hfault
  · next a =>
    obtain ⟨kind, hkind, rfl⟩ := mapError_eq_error_iff.mp hfault
    rw [h a kind hkind]
    decide
  · exact refuse_ne (by decide) hfault

theorem needsNoView_total (f : Item → Item) : (total f).NeedsNoView :=
  needsNoView_ofOne fun _ ↦ .ok _

theorem needsNoView_withOption {f : Item → Option Item → Except Fault Item}
    (h : ∀ a b? fault, f a b? = .error fault → fault.kind ≠ .templateNotFound) :
    (withOption f).NeedsNoView := by
  intro arguments fault hfault
  rw [withOption.eq_def] at hfault
  split at hfault
  · exact refuse_ne (by decide) hfault
  · exact h _ _ fault hfault
  · exact h _ _ fault hfault
  · exact h _ _ fault hfault
  · exact h _ _ fault hfault
  · exact refuse_ne (by decide) hfault

end Operation

namespace Filter

open Operation

theorem onlyInvalid_size (item : Item) : OnlyInvalid (size item) := by
  rw [size.eq_def]
  split
  · exact .ok _
  · split
    · exact .ok _
    · exact .error

theorem onlyInvalid_first (item : Item) : OnlyInvalid (first item) := by
  rw [first.eq_def]
  split
  · exact .ok _
  · split
    · exact .ok _
    · exact .error

theorem onlyInvalid_last (item : Item) : OnlyInvalid (last item) := by
  rw [last.eq_def]
  split <;> first | exact .ok _ | exact .error

theorem onlyInvalid_reverse (item : Item) : OnlyInvalid (reverse item) := by
  rw [reverse.eq_def]
  split
  · exact .ok _
  · exact .ok _
  · exact .ok _
  · exact .ok _
  · split
    · exact .ok _
    · exact .error

theorem onlyInvalid_pairs (item : Item) : OnlyInvalid (pairs item) := by
  rw [pairs.eq_def]
  split
  · exact .ok _
  · exact .error

theorem needsNoView_orDefault : NeedsNoView orDefault := by
  intro arguments fault hfault
  rw [orDefault.eq_def] at hfault
  split at hfault
  · exact refuse_ne (by decide) hfault
  · cases hfault
  · cases hfault
  · cases hfault
  · exact refuse_ne (by decide) hfault

theorem join_ne {a : Item} {separator? : Option Item} {fault : Fault}
    (h : join a separator? = .error fault) : fault.kind ≠ .templateNotFound := by
  rw [join] at h
  split at h
  · cases h
  · cases h
    simp [Fault.kind]

theorem trim_ne {a : Item} {characters? : Option Item} {fault : Fault}
    (h : trim a characters? = .error fault) : fault.kind ≠ .templateNotFound := by
  rw [trim.eq_def] at h
  split at h <;> cases h

theorem needsNoView_builtin? {name : Text} {operation : Operation}
    (h : builtin? name = some operation) : operation.NeedsNoView := by
  rw [builtin?] at h
  split at h <;> cases h
  all_goals first
    | exact needsNoView_total _
    | exact needsNoView_orDefault
    | exact needsNoView_ofOne onlyInvalid_size
    | exact needsNoView_ofOne onlyInvalid_first
    | exact needsNoView_ofOne onlyInvalid_last
    | exact needsNoView_ofOne onlyInvalid_reverse
    | exact needsNoView_ofOne onlyInvalid_pairs
    | exact needsNoView_withOption fun _ _ _ ↦ join_ne
    | exact needsNoView_withOption fun _ _ _ ↦ trim_ne

end Filter

namespace Test

open Operation

theorem needsNoView_ofTwo (f : Item → Item → Bool) : (ofTwo f).NeedsNoView := by
  intro arguments fault hfault
  rw [ofTwo.eq_def] at hfault
  split at hfault
  · cases hfault
  · exact refuse_ne (by decide) hfault
  · exact refuse_ne (by decide) hfault
  · exact refuse_ne (by decide) hfault

theorem needsNoView_inCase (f : Char → Bool) : (inCase f).NeedsNoView := by
  refine needsNoView_ofOne fun a ↦ ?_
  split
  · exact .ok _
  · exact .error

theorem needsNoView_ofName (isKnown : Text → Bool) : (ofName isKnown).NeedsNoView := by
  refine needsNoView_ofOne fun a ↦ ?_
  split
  · exact .ok _
  · exact .error

theorem needsNoView_builtin? {name : Text} {operation : Operation}
    (h : builtin? name = some operation) : operation.NeedsNoView := by
  rw [builtin?] at h
  split at h <;> cases h
  all_goals first
    | exact needsNoView_total _
    | exact needsNoView_inCase _
    | exact needsNoView_ofTwo _

end Test

/-! ## What a host adds -/

/-- Whether a function or a filter of the host fails with a fault for some values. -/
def Extensions.Raises (extensions : Extensions) (fault : Fault) : Prop :=
  ∃ name operation arguments, (extensions.functions.get? name = some operation ∨
    extensions.filters.get? name = some operation) ∧ operation arguments = .error fault

end CompiledViews.Template
