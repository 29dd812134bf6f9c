import CompiledViews.Proofs.Template.Missing

/-!
# Views that include one another

A page may come to embed a view, whose body comes to embed another, and so on, until one is asked
for that cannot be had. What breaks off then is the innermost body; and each of the bodies around it
breaks off for the same reason, which it reports as the cause of a fault of its own. The body of the
page itself is the exception: it embeds, but is not embedded.

So there is one wrapping less than there are bodies. A view that a page embeds directly is asked for
by the page's own body, and why it cannot be had is the page's own fault, as it stands.

## Where a body is

That a body comes to a step says no more than how steps are put together: what was done before has
succeeded, whatever frames, conditions, loops and blocks are around. A step that fails there is the
last one. What is done on behalf of another fault, such as the writing of a block from within the
one in its place, is not a step in this sense.
-/

namespace CompiledViews.Template

open Rendering Render

variable {extensions : Extensions} {α β : Type} {s s' s₁ : Progress}
  {log before after tried : Log} {fault : Fault}

/-! ## Coming to a step -/

/-- Whether doing something comes to the step `inner` in the state `s₁`. The log is that of the
steps before it, which have all succeeded. -/
inductive Render.ComesTo (inner : Render β) (s₁ : Progress) :
    {α : Type} → (action : Render α) → (s : Progress) → Log → Prop
  | here : ComesTo inner s₁ inner s₁ []
  | first {α γ : Type} {action : Render α} {f : α → Render γ} {s : Progress} {log : Log}
    (h : ComesTo inner s₁ action s log) : ComesTo inner s₁ (action >>= f) s log
  | next {α γ : Type} {action : Render α} {f : α → Render γ} {a : α} {s s' : Progress}
    {before after : Log} (hdone : (action.run.run s).Leads before (.ok a, s'))
    (h : ComesTo inner s₁ (f a) s' after) : ComesTo inner s₁ (action >>= f) s (before ++ after)

/-- If the step fails, then so does what comes to it, for the same reason. -/
theorem Render.ComesTo.leads {inner : Render β} {action : Render α}
    (h : ComesTo inner s₁ action s before) {result : Progress}
    (hfails : (inner.run.run s₁).Leads after (.error fault, result)) :
    (action.run.run s).Leads (before ++ after) (.error fault, result) := by
  induction h with
  | here => exact hfails
  | first _ ih => exact leads_run_bind.mpr (.inr ⟨fault, rfl, ih⟩)
  | next hdone _ ih =>
    rw [List.append_assoc]
    exact leads_run_bind.mpr (.inl ⟨_, _, _, _, rfl, hdone, ih⟩)

theorem Render.ComesTo.behind {inner : Render β} {γ : Type} {action : Render α} {f : α → Render γ}
    {a : α} (hdone : (action.run.run s).Leads [] (.ok a, s'))
    (h : ComesTo inner s₁ (f a) s' log) : ComesTo inner s₁ (action >>= f) s log :=
  .next hdone h

/-- A body that begins by embedding comes to that before anything else. -/
theorem comesTo_embed_literal (fuel : Nat) (item : Item) (ignoreMissing : Bool)
    (rest : List Statement) (s : Progress) :
    ComesTo (embed (runBody extensions fuel) item ignoreMissing) { s with layout? := none }
      (runBody extensions (fuel + 1) (.embed (.literal item) ignoreMissing :: rest)) s [] := by
  rw [runBody]
  refine .behind ⟨rfl, rfl⟩ (.first ?_)
  rw [Statement.runAll]
  refine .first ?_
  rw [Statement.run]
  exact .behind ⟨rfl, rfl⟩ .here

/-! ## Asking for a view -/

/-- Whether, of names that are tried in turn, those before `name` are those of missing views. -/
inductive TriesUpTo (name : Text) : List Item → Log → Prop
  | here (isSafe : Bool) (others : List Item) : TriesUpTo name (.string name isSafe :: others) []
  | missing {other : Text} {isSafe : Bool} {names : List Item} {log : Log} {fault : Fault}
    (hkind : fault.kind = .templateNotFound) (h : TriesUpTo name names log) :
    TriesUpTo name (.string other isSafe :: names) ((other, .error fault) :: log)

theorem TriesUpTo.leads {name : Text} {names : List Item} (h : TriesUpTo name names tried)
    {answer : Except Fault Template}
    (hanswer : ∀ fault, answer = .error fault → fault.kind ≠ .templateNotFound) (s : Progress) :
    ((firstTemplate? names).run.run s).Leads (tried ++ [(name, answer)]) (answer.map some, s) := by
  induction h with
  | here isSafe others =>
    rw [run_firstTemplate?]
    refine ⟨answer, [], rfl, ?_⟩
    cases answer with
    | ok t => exact ⟨rfl, rfl⟩
    | error fault =>
      dsimp only
      rw [if_neg (hanswer fault rfl)]
      exact ⟨rfl, rfl⟩
  | @missing other isSafe names log fault hkind _ ih =>
    rw [run_firstTemplate?]
    refine ⟨.error fault, log ++ [(name, answer)], rfl, ?_⟩
    dsimp only
    rwa [if_pos hkind]

/-! ## Embedding -/

/-- The state in which the body of an embedded template is run. -/
def Progress.embedding (s : Progress) (t : Template) : Progress :=
  { s with blocks := t.bodies, current? := none, outerDepth := s.outerDepth + embeddingDepth }

theorem leads_embed_error {runBody : List Statement → Render Unit} {item : Item}
    {ignoreMissing : Bool} {name : Text} (htries : TriesUpTo name (namesIn item) tried)
    (hkind : fault.kind ≠ .templateNotFound) (s : Progress) :
    ((embed runBody item ignoreMissing).run.run s).Leads (tried ++ [(name, .error fault)])
      (.error fault, s) := by
  have hanswer : ∀ other, Except.error (α := Template) fault = .error other →
      other.kind ≠ .templateNotFound := by
    rintro _ ⟨⟩
    exact hkind
  have hasked := htries.leads hanswer s
  exact leads_run_bind.mpr (.inr ⟨fault, rfl, hasked⟩)

/-- What the body of an embedded view fails for is the cause of the fault that is reported. -/
theorem leads_embed_within {runBody : List Statement → Render Unit} {item : Item}
    {ignoreMissing : Bool} {name : Text} {t : Template}
    (htries : TriesUpTo name (namesIn item) tried)
    (hdepth : s.frames.length + (s.outerDepth + embeddingDepth) ≤ depthLimit)
    (hbody : ((runBody t.body).run.run (s.embedding t)).Leads after (.error fault, s')) :
    ((embed runBody item ignoreMissing).run.run s).Leads (tried ++ (name, .ok t) :: after)
      (.error (.within .badInclude fault), s') := by
  have hanswer : ∀ other, Except.ok (ε := Fault) t = .error other →
      other.kind ≠ .templateNotFound := nofun
  have hasked := htries.leads hanswer s
  have hcheck : (checkDepth.run.run (s.embedding t)).Leads [] (.ok (), s.embedding t) := by
    have hshallow : ¬depthLimit < (s.embedding t).frames.length + (s.embedding t).outerDepth :=
      Nat.not_lt.mpr hdepth
    refine leads_run_bind.mpr (.inl ⟨_, _, [], [], rfl, ⟨rfl, rfl⟩, ?_⟩)
    rw [if_neg hshallow]
    exact ⟨rfl, rfl⟩
  have hcausing : ((causing .badInclude (runBody t.body)).run.run (s.embedding t)).Leads after
      (.error (.within .badInclude fault), s') := by
    rw [run_causing, leads_bind]
    exact ⟨_, after, [], (List.append_nil after).symm, hbody, rfl, rfl⟩
  -- the view is there, there is room for it, and then its body fails
  refine leads_run_bind.mpr (.inl ⟨some t, s, tried ++ [(name, .ok t)], after, by simp, hasked, ?_⟩)
  dsimp only
  rw [run_runEmbedded]
  refine leads_run_bind.mpr (.inl ⟨(), s.embedding t, [], after, rfl, hcheck, ?_⟩)
  exact leads_run_bind.mpr (.inr ⟨_, rfl, hcausing⟩)

/-! ## Chains of views -/

/-- Whether running a body comes, through views of which each is included by the one before, to ask
for the view `last`. -/
inductive Includes (extensions : Extensions) (last : Text) : (fuel : Nat) →
    (body : List Statement) → Progress → Log → (through : List Text) → Prop
  /-- The body itself asks for the view. -/
  | last {fuel fuel' : Nat} {body : List Statement} {s s₁ : Progress} {before tried : Log}
    {item : Item} {ignoreMissing : Bool}
    (hcomes : ComesTo (embed (runBody extensions fuel') item ignoreMissing) s₁
      (runBody extensions fuel body) s before)
    (htries : TriesUpTo last (namesIn item) tried) :
    Includes extensions last fuel body s (before ++ tried) []
  /-- The body embeds a view that leads there. -/
  | through {fuel fuel' : Nat} {body : List Statement} {s s₁ : Progress} {before tried after : Log}
    {item : Item} {ignoreMissing : Bool} {name : Text} {t : Template} {through : List Text}
    (hcomes : ComesTo (embed (runBody extensions fuel') item ignoreMissing) s₁
      (runBody extensions fuel body) s before)
    (htries : TriesUpTo name (namesIn item) tried)
    (hdepth : s₁.frames.length + (s₁.outerDepth + embeddingDepth) ≤ depthLimit)
    (h : Includes extensions last fuel' t.body (s₁.embedding t) after through) :
    Includes extensions last fuel body s (before ++ (tried ++ (name, .ok t) :: after))
      (name :: through)

/-- A fault that has been reported as the cause of another one so many times. -/
def Fault.buried : (depth : Nat) → Fault → Fault
  | 0, fault => fault
  | depth + 1, fault => .within .badInclude (fault.buried depth)

/-- **Chains of views.** If the last view cannot be had, a body fails for that reason, wrapped once
for each of the views in between. -/
theorem Includes.leads {last : Text} {fuel : Nat} {body : List Statement} {through : List Text}
    (h : Includes extensions last fuel body s log through)
    (hkind : fault.kind ≠ .templateNotFound) :
    ∃ s', ((runBody extensions fuel body).run.run s).Leads (log ++ [(last, .error fault)])
      (.error (fault.buried through.length), s') := by
  induction h with
  | last hcomes htries =>
    rw [List.append_assoc]
    exact ⟨_, hcomes.leads (leads_embed_error htries hkind _)⟩
  | through hcomes htries hdepth _ ih =>
    -- the body of the next view fails with one wrapping less, and this one embeds it
    obtain ⟨s', hbody⟩ := ih
    refine ⟨s', ?_⟩
    rw [List.append_assoc, List.append_assoc, List.cons_append]
    exact hcomes.leads (leads_embed_within htries hdepth hbody)

end CompiledViews.Template
