import CompiledViews.Proofs.Disk.Run
import CompiledViews.Proofs.ViewEngine.Plain

/-!
# What an answer is made from

A request for a view is itself a rendering that first asks for the view's own template. To say what
an answer was made from is to say how the questions on the way to it were answered; since templates
are asked for as they are needed, the answers may come from different moments, and no single
function need have given them.

An engine's answers are described without looking into renderings: it is enough to know of one
question what its answer is like and that it leaves the engine fit for the next one.
-/

namespace CompiledViews

open Template (Extensions Fault Rendering)
open Disk

namespace Template.Rendering

variable {α β : Type} {allowed : Text → Except Fault Template → Prop} {names : Text → Prop}
  {answers : Text → Except Fault Template} {rendering : Rendering α}

/-- Whether a rendering may come to a result, if each of its questions is answered as allowed. -/
def Answered (allowed : Text → Except Fault Template → Prop) : Rendering α → α → Prop
  | done a, b => b = a
  | fetch name next, b => ∃ answer, allowed name answer ∧ (next answer).Answered allowed b

theorem Answered.bind_done {a : α} (h : rendering.Answered allowed a) (f : α → β) :
    (rendering.bind fun b ↦ done (f b)).Answered allowed (f a) := by
  induction rendering with
  | done b => exact congrArg f h
  | fetch name next ih =>
    obtain ⟨answer, hallowed, hrest⟩ := h
    exact ⟨answer, hallowed, ih answer hrest⟩

theorem Within.bind_done (h : rendering.Within names answers) (f : α → β) :
    (rendering.bind fun b ↦ done (f b)).Within names answers := by
  induction rendering with
  | done b => trivial
  | fetch name next ih => exact ⟨h.1, ih _ h.2⟩

theorem Answered.mono {allowed' : Text → Except Fault Template → Prop} {a : α}
    (h : rendering.Answered allowed a) (hallowed : ∀ name t, allowed name t → allowed' name t) :
    rendering.Answered allowed' a := by
  induction rendering with
  | done b => exact h
  | fetch name next ih =>
    obtain ⟨answer, hanswer, hrest⟩ := h
    exact ⟨answer, hallowed name answer hanswer, ih answer hrest⟩

/-- Where only one answer is allowed to each of the questions, there is one result. -/
theorem Answered.eq_run {a : α} (h : rendering.Answered allowed a)
    (hwithin : rendering.Within names answers)
    (honly : ∀ name answer, names name → allowed name answer → answer = answers name) :
    a = rendering.run (m := Id) answers := by
  induction rendering with
  | done b => exact h
  | fetch name next ih =>
    obtain ⟨hname, hwithin⟩ := hwithin
    obtain ⟨answer, hallowed, hrest⟩ := h
    obtain rfl := honly name answer hname hallowed
    exact ih _ hrest hwithin

end Template.Rendering

namespace ViewEngine

variable {engine engine' : ViewEngine} {available : Capabilities} {name : Text}
  {disk disk' : Disk} {names : Text → Prop} {P : ViewEngine → Disk → Prop}
  {allowed : Text → Except Fault Template → Prop}

/-- What comes of a view with data, when the view's own template has been looked up. -/
def pageOf (extensions : Extensions) (name : Text) (data : ViewData) :
    Except Fault Template → Rendering (Except RenderError Text)
  | .error fault => .done (.error (.ofFault name fault))
  | .ok t => (t.render extensions data).bind fun page ↦ .done (page.result.mapError (.ofFault name))

def request (extensions : Extensions) (name : Text) (data : ViewData) :
    Rendering (Except RenderError Text) :=
  .fetch name (pageOf extensions name data)

theorem run_request (plain : PlainEngine) (available : Capabilities) (name : Text)
    (data : ViewData) (disk : Disk) :
    (request plain.extensions name data).run (m := Id)
        (fun other ↦ plain.template available other disk)
      = plain.render available name data disk := by
  rw [request, Rendering.run_fetch, PlainEngine.render]
  change (pageOf _ name data (plain.template available name disk)).run (m := Id) _ = _
  cases plain.template available name disk with
  | error fault => rfl
  | ok t => exact Rendering.run_bind (m := Id) ..

theorem within_request {plain : PlainEngine} {name : Text} {data : ViewData}
    (h : plain.StaysWithin names available name data disk) :
    (request plain.extensions name data).Within names fun other ↦
      plain.template available other disk := by
  obtain ⟨hname, hpage⟩ := h
  refine ⟨hname, ?_⟩
  change (pageOf _ name data (plain.template available name disk)).Within _ _
  cases ht : plain.template available name disk with
  | error fault => trivial
  | ok t => exact (hpage t ht).bind_done _

/-- An answer is that of an engine without memory, if such an engine needs certain views only, and
each question for one of those was answered as it would be there. -/
theorem eq_plain_of_answered {data : ViewData} {answer : Except RenderError Text}
    (h : (request engine.extensions name data).Answered allowed answer)
    (hstays : engine.plain.StaysWithin names available name data disk)
    (honly : ∀ other t, names other → allowed other t →
      t = engine.plain.template available other disk) :
    answer = engine.plain.render available name data disk := by
  rw [← run_request]
  exact h.eq_run (within_request hstays) honly

/-- Whether a question for a template leaves engine and disk as they should be, and is answered as
allowed. -/
def Meets (available : Capabilities) (P : ViewEngine → Disk → Prop)
    (allowed : Text → Except Fault Template → Prop) : Prop :=
  ∀ name engine disk, P engine disk → ∀ answer engine' disk',
    ((template available name).run engine).run disk = ((answer, engine'), disk') →
      P engine' disk' ∧ allowed name answer

theorem Meets.run {α : Type} (h : Meets available P allowed) (rendering : Rendering α)
    (hstart : P engine disk) {a : α}
    (hrun : ((rendering.run (template available)).run engine).run disk = ((a, engine'), disk')) :
    P engine' disk' ∧ rendering.Answered allowed a := by
  induction rendering generalizing engine disk with
  | done result =>
    cases hrun
    exact ⟨hstart, rfl⟩
  | fetch other next ih =>
    rw [Rendering.run_fetch, Stateful.run_bind] at hrun
    rcases hfirst : ((template available other).run engine).run disk with ⟨⟨answer, engine₁⟩, disk₁⟩
    rw [hfirst] at hrun
    obtain ⟨hnext, hanswer⟩ := h other engine disk hstart answer engine₁ disk₁ hfirst
    obtain ⟨hend, hresult⟩ := ih answer hnext hrun
    exact ⟨hend, answer, hanswer, hresult⟩

/-- What an engine knows when it begins to look for templates: what has been loaded, if all of that
is still as it was, and otherwise nothing. -/
theorem run_reloadChanged (engine : ViewEngine) (disk : Disk) :
    (reloadChanged.run engine).run disk = (((), engine.forget), disk) ∨
      (reloadChanged.run engine).run disk = (((), engine), disk) ∧
        ∀ name source, engine.loaded.get? name = some source → hasChanged source disk = false := by
  have hrun : (reloadChanged.run engine).run disk
      = (((), if engine.loaded.any fun entry ↦ hasChanged entry.2 disk then engine.forget
          else engine), disk) := rfl
  rw [hrun]
  split
  · exact .inl rfl
  · next hany =>
    refine .inr ⟨rfl, fun name source hsource ↦ ?_⟩
    obtain ⟨before, after, hloaded, -⟩ := List.lookup_eq_some_iff.mp hsource
    rw [hloaded, List.any_append, List.any_cons] at hany
    simp only [Bool.or_eq_true, not_or, Bool.not_eq_true] at hany
    exact hany.2.1

/-- What an engine answers when it is asked to render a view, if every question is met from when it
has looked for changes. -/
theorem Meets.render (h : Meets available P allowed) {extensions : Extensions}
    (hextensions : ∀ engine disk, P engine disk → engine.extensions = extensions)
    (hreload : ∀ engine₀, (reloadChanged.run engine).run disk = (((), engine₀), disk) →
      P engine₀ disk)
    (name : Text) (data : ViewData) {answer : Except RenderError Text}
    (hrun : ((ViewEngine.render available name data).run engine).run disk
      = ((answer, engine'), disk')) :
    (∃ engine₁ calls, P engine₁ disk' ∧ engine' = { engine₁ with calls }) ∧
      (request extensions name data).Answered allowed answer := by
  obtain ⟨engine₀, hrunReload⟩ :
      ∃ engine₀, (reloadChanged.run engine).run disk = (((), engine₀), disk) := ⟨_, rfl⟩
  -- the view's own template is asked for first, and the page goes on from there
  rw [ViewEngine.render, Stateful.run_bind, hrunReload, Stateful.run_bind] at hrun
  rcases hfirst : ((template available name).run engine₀).run disk with ⟨⟨found, engine₁⟩, disk₁⟩
  rw [hfirst] at hrun
  obtain ⟨hnext, hfound⟩ := h name engine₀ disk (hreload engine₀ hrunReload) _ _ _ hfirst
  cases found with
  | error fault =>
    cases hrun
    exact ⟨⟨engine₁, engine₁.calls, hnext, rfl⟩, .error fault, hfound, rfl⟩
  | ok t =>
    dsimp only at hrun
    rcases hsecond : (((t.render engine₁.extensions data).run (template available)).run engine₁).run
      disk₁ with ⟨⟨page, engine₂⟩, disk₂⟩
    obtain ⟨hend, hpage⟩ := h.run _ hnext hsecond
    rw [Stateful.run_bind, Stateful.run_get, Stateful.run_bind, hsecond] at hrun
    cases hrun
    refine ⟨⟨engine₂, _, hend, rfl⟩, .ok t, hfound, ?_⟩
    rw [hextensions _ _ hnext] at hpage
    exact hpage.bind_done fun page ↦ page.result.mapError (RenderError.ofFault name)

/-- The same for an engine that is asked whether a view can be loaded and parsed. -/
theorem Meets.compiles (h : Meets available P allowed)
    (hreload : ∀ engine₀, (reloadChanged.run engine).run disk = (((), engine₀), disk) →
      P engine₀ disk)
    (name : Text) {answer : Bool}
    (hrun : ((ViewEngine.compiles available name).run engine).run disk
      = ((answer, engine'), disk')) :
    P engine' disk' ∧ ∃ found, allowed name found ∧ answer = found.isOk := by
  obtain ⟨engine₀, hrunReload⟩ :
      ∃ engine₀, (reloadChanged.run engine).run disk = (((), engine₀), disk) := ⟨_, rfl⟩
  rw [ViewEngine.compiles, Stateful.run_bind, hrunReload, Stateful.run_bind] at hrun
  rcases hfirst : ((template available name).run engine₀).run disk with ⟨⟨found, engine₁⟩, disk₁⟩
  rw [hfirst] at hrun
  cases hrun
  obtain ⟨hend, hfound⟩ := h name engine₀ disk (hreload engine₀ hrunReload) _ _ _ hfirst
  exact ⟨hend, found, hfound, rfl⟩

end ViewEngine

end CompiledViews
