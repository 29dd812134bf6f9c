import Mathlib.Data.List.Forall2

/-!
# Computations that may fail

How a computation of several steps has come out says how each of its steps has. What follows takes
such a result apart: a result that is there has come from all steps, an error from the first step
that has one.
-/

namespace CompiledViews

variable {α β ε : Type} {x : Except ε α} {y : β} {error : ε}

section Steps

theorem bind_eq_ok_iff {f : α → Except ε β} : x >>= f = .ok y ↔ ∃ a, x = .ok a ∧ f a = .ok y := by
  constructor
  · intro h
    cases x with
    | error error => cases h
    | ok a => exact ⟨a, rfl, h⟩
  · rintro ⟨a, rfl, h⟩
    exact h

theorem bind_eq_error_iff {f : α → Except ε β} :
    x >>= f = .error error ↔ x = .error error ∨ ∃ a, x = .ok a ∧ f a = .error error := by
  constructor
  · intro h
    cases x with
    | error error' =>
      cases h
      exact .inl rfl
    | ok a => exact .inr ⟨a, rfl, h⟩
  · rintro (rfl | ⟨a, rfl, h⟩)
    · rfl
    · exact h

theorem map_eq_ok_iff {f : α → β} : x.map f = .ok y ↔ ∃ a, x = .ok a ∧ f a = y := by
  constructor
  · intro h
    cases x with
    | error error => cases h
    | ok a => exact ⟨a, rfl, Except.ok.inj h⟩
  · rintro ⟨a, rfl, rfl⟩
    rfl

theorem map_eq_error_iff {f : α → β} : x.map f = .error error ↔ x = .error error := by
  constructor
  · intro h
    cases x with
    | error error' =>
      cases h
      rfl
    | ok a => cases h
  · rintro rfl
    rfl

theorem mapError_eq_ok_iff {ε' : Type} {f : ε → ε'} {a : α} :
    x.mapError f = .ok a ↔ x = .ok a := by
  constructor
  · intro h
    cases x with
    | error error => cases h
    | ok b =>
      cases h
      rfl
  · rintro rfl
    rfl

theorem toOption_eq_some_iff {a : α} : x.toOption = some a ↔ x = .ok a := by
  cases x <;> simp [Except.toOption]

theorem mapError_eq_error_iff {ε' : Type} {f : ε → ε'} {error' : ε'} :
    x.mapError f = .error error' ↔ ∃ error, x = .error error ∧ f error = error' := by
  cases x with
  | error error =>
    constructor
    · rintro ⟨⟩
      exact ⟨error, rfl, rfl⟩
    · rintro ⟨_, ⟨⟩, rfl⟩
      rfl
  | ok a =>
    constructor
    · rintro ⟨⟩
    · rintro ⟨_, ⟨⟩, -⟩

end Steps

section Lists

variable {f : α → Except ε β} {xs : List α} {ys : List β}

theorem mapM_eq_ok_iff : xs.mapM f = .ok ys ↔ List.Forall₂ (fun x y ↦ f x = .ok y) xs ys := by
  induction xs generalizing ys with
  | nil =>
    rw [List.mapM_nil, List.forall₂_nil_left_iff]
    exact ⟨fun h ↦ (Except.ok.inj h).symm, fun h ↦ h ▸ rfl⟩
  | cons x xs ih =>
    rw [List.mapM_cons, List.forall₂_cons_left_iff]
    constructor
    · intro h
      obtain ⟨y, hx, h⟩ := bind_eq_ok_iff.mp h
      obtain ⟨ys', hxs, h⟩ := bind_eq_ok_iff.mp h
      cases h
      exact ⟨y, ys', hx, ih.mp hxs, rfl⟩
    · rintro ⟨y, ys', hx, hxs, rfl⟩
      rw [hx, ih.mpr hxs]
      rfl

theorem forM_eq_ok_iff {f : α → Except ε Unit} :
    xs.forM f = .ok () ↔ ∀ x ∈ xs, f x = .ok () := by
  induction xs with
  | nil => exact iff_of_true rfl (by simp)
  | cons x xs ih =>
    rw [List.forall_mem_cons, ← ih, List.forM]
    constructor
    · intro h
      obtain ⟨_, hx, hxs⟩ := bind_eq_ok_iff.mp h
      exact ⟨hx, hxs⟩
    · rintro ⟨hx, hxs⟩
      exact bind_eq_ok_iff.mpr ⟨(), hx, hxs⟩

theorem exists_first_of_mapM_eq_error (h : xs.mapM f = .error error) :
    ∃ before x after ys, xs = before ++ x :: after ∧ before.mapM f = .ok ys ∧
      f x = .error error := by
  induction xs with
  | nil => cases h
  | cons x xs ih =>
    rw [List.mapM_cons] at h
    obtain hx | ⟨y, hx, h⟩ := bind_eq_error_iff.mp h
    · exact ⟨[], x, xs, [], rfl, rfl, hx⟩
    · obtain hxs | ⟨ys, -, h⟩ := bind_eq_error_iff.mp h
      · obtain ⟨before, x', after, ys, rfl, hbefore, hx'⟩ := ih hxs
        refine ⟨x :: before, x', after, y :: ys, rfl, ?_, hx'⟩
        rw [List.mapM_cons, hx, hbefore]
        rfl
      · cases h

theorem exists_of_mapM_eq_error (h : xs.mapM f = .error error) : ∃ x ∈ xs, f x = .error error := by
  obtain ⟨before, x, after, -, rfl, -, hx⟩ := exists_first_of_mapM_eq_error h
  exact ⟨x, by simp, hx⟩

theorem exists_of_mapM_eq_ok {a : α} (h : xs.mapM f = .ok ys) (ha : a ∈ xs) :
    ∃ y ∈ ys, f a = .ok y := by
  have hall := mapM_eq_ok_iff.mp h
  clear h
  induction hall with
  | nil => cases ha
  | cons hfirst _ ih =>
    rcases List.mem_cons.mp ha with rfl | ha
    · exact ⟨_, List.mem_cons_self, hfirst⟩
    · obtain ⟨y, hy, heq⟩ := ih ha
      exact ⟨y, List.mem_cons_of_mem _ hy, heq⟩

end Lists

end CompiledViews
