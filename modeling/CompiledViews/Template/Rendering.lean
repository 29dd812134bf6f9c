import CompiledViews.Template.Expression
import CompiledViews.Template.Fault

/-!
# Renderings

What a template renders to depends on the other templates it names, and which those are shows only
in the course of it. A rendering is therefore a tree of questions for templates by name; running it
means to answer them. Where the answers come from, and what is remembered of them, is up to whoever
runs it; two runs with the same answers have the same result.
-/

namespace CompiledViews.Template

/-- A computation that asks for templates by name. -/
inductive Rendering (α : Type)
  | done (result : α)
  | fetch (name : Text) (next : Except Fault Template → Rendering α)

namespace Rendering

variable {α β : Type}

/-- Goes on with the result of a rendering. -/
def bind : Rendering α → (α → Rendering β) → Rendering β
  | done a, f => f a
  | fetch name next, f => fetch name fun answer ↦ (next answer).bind f

instance : Monad Rendering where
  pure := done
  bind := bind

/-- Asks for one template. -/
def ask (name : Text) : Rendering (Except Fault Template) := fetch name done

/-- Runs a rendering, answering its questions one by one. -/
def run {m : Type → Type} [Monad m] (answer : Text → m (Except Fault Template)) :
    Rendering α → m α
  | done a => pure a
  | fetch name next => do (next (← answer name)).run answer

@[simp]
theorem run_done {m : Type → Type} [Monad m] (answer : Text → m (Except Fault Template)) (a : α) :
    (done a).run answer = pure a := rfl

@[simp]
theorem run_fetch {m : Type → Type} [Monad m] (answer : Text → m (Except Fault Template))
    (name : Text) (next : Except Fault Template → Rendering α) :
    (fetch name next).run answer = answer name >>= fun t ↦ (next t).run answer := rfl

theorem run_bind {m : Type → Type} [Monad m] [LawfulMonad m]
    (answer : Text → m (Except Fault Template)) (r : Rendering α) (f : α → Rendering β) :
    (r.bind f).run answer = r.run answer >>= fun a ↦ (f a).run answer := by
  induction r with
  | done a => simp [bind]
  | fetch name next ih => simp [bind, ih]

end Rendering

end CompiledViews.Template
