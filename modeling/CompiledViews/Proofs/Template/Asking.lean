import CompiledViews.Template.Page

/-!
# Renderings and their logs

The questions that a rendering asks, with the answers it gets, are its log. A log decides what the
rendering comes to; and where steps are taken one after the other, so are their logs.
-/

namespace CompiledViews.Template

namespace Rendering

variable {α β : Type}

/-- The questions of a rendering in order, each with its answer. -/
abbrev Log := List (Text × Except Fault Template)

/-- Whether a rendering with a log comes to a result. -/
def Leads : Rendering α → Log → α → Prop
  | done a, log, b => log = [] ∧ b = a
  | fetch name next, log, b =>
    ∃ answer rest, log = (name, answer) :: rest ∧ (next answer).Leads rest b

@[simp]
theorem leads_done {a b : α} {log : Log} : (done a).Leads log b ↔ log = [] ∧ b = a := Iff.rfl

theorem leads_bind {rendering : Rendering α} {f : α → Rendering β} {log : Log} {b : β} :
    (rendering.bind f).Leads log b ↔
      ∃ a before after, log = before ++ after ∧ rendering.Leads before a ∧ (f a).Leads after b := by
  induction rendering generalizing log with
  | done a =>
    constructor
    · intro h
      exact ⟨a, [], log, rfl, ⟨rfl, rfl⟩, h⟩
    · rintro ⟨_, _, after, rfl, ⟨rfl, rfl⟩, h⟩
      exact h
  | fetch name next ih =>
    constructor
    · rintro ⟨answer, rest, rfl, h⟩
      obtain ⟨a, before, after, rfl, hfirst, hrest⟩ := (ih answer).mp h
      exact ⟨a, (name, answer) :: before, after, rfl, ⟨answer, before, rfl, hfirst⟩, hrest⟩
    · rintro ⟨a, _, after, rfl, ⟨answer, before, rfl, hfirst⟩, hrest⟩
      exact ⟨answer, before ++ after, rfl, (ih answer).mpr ⟨a, before, after, rfl, hfirst, hrest⟩⟩

theorem bind_done (rendering : Rendering α) : rendering.bind done = rendering := by
  induction rendering with
  | done a => rfl
  | fetch name next ih => exact congrArg (fetch name) (funext ih)

theorem bind_bind {γ : Type} (rendering : Rendering α) (f : α → Rendering β)
    (g : β → Rendering γ) :
    (rendering.bind f).bind g = rendering.bind fun a ↦ (f a).bind g := by
  induction rendering with
  | done a => rfl
  | fetch name next ih => exact congrArg (fetch name) (funext ih)

instance : LawfulMonad Rendering :=
  LawfulMonad.mk' Rendering bind_done (fun _ _ ↦ rfl) bind_bind

end Rendering

namespace Render

open Rendering

variable {α β : Type} {s s' : Progress} {log : Log}

/-! ## Running steps -/

theorem run_bind (action : Render α) (f : α → Render β) (s : Progress) :
    (action >>= f).run.run s = (action.run.run s).bind fun
      | (.ok a, s') => (f a).run.run s'
      | (.error fault, s') => done (.error fault, s') := by
  refine congrArg (Rendering.bind (action.run.run s)) (funext fun ⟨result, s'⟩ ↦ ?_)
  cases result <;> rfl

theorem run_causing (kind : FaultKind) (action : Render α) (s : Progress) :
    (causing kind action).run.run s = (action.run.run s).bind fun
      | (.ok a, s') => done (.ok a, s')
      | (.error fault, s') => done (.error (.within kind fault), s') := by
  refine congrArg (Rendering.bind (action.run.run s)) (funext fun ⟨result, s'⟩ ↦ ?_)
  cases result <;> rfl

theorem leads_run_bind {action : Render α} {f : α → Render β} {result : Except Fault β} :
    ((action >>= f).run.run s).Leads log (result, s') ↔
      (∃ a s₁ before after, log = before ++ after ∧ (action.run.run s).Leads before (.ok a, s₁) ∧
        ((f a).run.run s₁).Leads after (result, s')) ∨
      ∃ fault, result = .error fault ∧ (action.run.run s).Leads log (.error fault, s') := by
  rw [run_bind, leads_bind]
  constructor
  · rintro ⟨⟨fault | a, s₁⟩, before, after, rfl, hfirst, hrest⟩
    · obtain ⟨rfl, hend⟩ := leads_done.mp hrest
      cases hend
      rw [List.append_nil]
      exact .inr ⟨fault, rfl, hfirst⟩
    · exact .inl ⟨a, s₁, before, after, rfl, hfirst, hrest⟩
  · rintro (⟨a, s₁, before, after, rfl, hfirst, hrest⟩ | ⟨fault, rfl, hfirst⟩)
    · exact ⟨(.ok a, s₁), before, after, rfl, hfirst, hrest⟩
    · exact ⟨(.error fault, s'), log, [], (List.append_nil log).symm, hfirst, rfl, rfl⟩

end Render

end CompiledViews.Template
