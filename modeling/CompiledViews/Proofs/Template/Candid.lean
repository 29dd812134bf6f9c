import CompiledViews.Proofs.Template.Asking
import CompiledViews.Proofs.Template.Refusal

/-!
# Steps that are candid about missing views

A step of a rendering is candid if what it fails for, where that is the want of a view, can be told
from its log: the view asked for last is missing. Nothing else fails for that reason, unless the
host does; and whatever is reported as the cause of another fault does not count.

Steps taken one after the other are candid if each of them is, for a step that fails is the last
one. So it is enough to look at the smallest ones; and expressions, which are made of those, are
candid by induction on their trees.
-/

namespace CompiledViews.Template

open Rendering

namespace Render

variable {extensions : Extensions} {α β : Type}

/-- Whether a log ends with the question for a view that is missing. -/
def EndsMissing (log : Log) : Prop :=
  ∃ before name fault, log = before ++ [(name, .error fault)] ∧ fault.kind = .templateNotFound

theorem EndsMissing.append {log : Log} (h : EndsMissing log) (before : Log) :
    EndsMissing (before ++ log) := by
  obtain ⟨middle, name, fault, rfl, hkind⟩ := h
  exact ⟨before ++ middle, name, fault, (List.append_assoc ..).symm, hkind⟩

theorem kind_of_causing {kind : FaultKind} {action : Render α} {s s' : Progress} {log : Log}
    {fault : Fault} (h : ((causing kind action).run.run s).Leads log (.error fault, s')) :
    fault.kind = kind := by
  rw [run_causing, leads_bind] at h
  obtain ⟨⟨cause | a, s₁⟩, before, after, -, -, -, hresult⟩ := h
  · cases hresult
    rfl
  · cases hresult

theorem kind_of_checkDepth {s s' : Progress} {log : Log} {fault : Fault}
    (h : (checkDepth.run.run s).Leads log (.error fault, s')) : fault.kind = .invalidOperation := by
  obtain ⟨_, _, _, _, -, ⟨-, hget⟩, h⟩ | ⟨_, -, -, hget⟩ := leads_run_bind.mp h
  · cases hget
    split at h
    · obtain ⟨-, hresult⟩ := h
      cases hresult
      rfl
    · cases h.2
  · cases hget

/-- Whether a step of a rendering is candid about missing views: if it succeeds, the depth is as it
was; if it fails for want of a view, the depth is as it was too, and the host has raised the fault
or the view that was asked for last is missing. -/
structure Candid (extensions : Extensions) (action : Render α) : Prop where
  done : ∀ {s s' log a}, (action.run.run s).Leads log (.ok a, s') → s'.outerDepth = s.outerDepth
  fails : ∀ {s s' log fault}, (action.run.run s).Leads log (.error fault, s') →
    fault.kind = .templateNotFound →
      s'.outerDepth = s.outerDepth ∧ (extensions.Raises fault ∨ EndsMissing log)

namespace Candid

theorem pure (a : α) : Candid extensions (Pure.pure a) where
  done h := by
    obtain ⟨-, hresult⟩ := h
    cases hresult
    rfl
  fails h := by
    obtain ⟨-, hresult⟩ := h
    cases hresult

theorem throw {fault : Fault} (h : fault.kind = .templateNotFound → extensions.Raises fault) :
    Candid extensions (MonadExcept.throw fault : Render α) where
  done h := by
    obtain ⟨-, hresult⟩ := h
    cases hresult
  fails hrun hkind := by
    obtain ⟨-, hresult⟩ := hrun
    cases hresult
    exact ⟨rfl, .inl (h hkind)⟩

theorem fail {kind : FaultKind} (h : kind ≠ .templateNotFound) :
    Candid extensions (Render.fail kind : Render α) := throw fun hkind ↦ absurd hkind h

theorem get : Candid extensions (MonadState.get : Render Progress) where
  done h := by
    obtain ⟨-, hresult⟩ := h
    cases hresult
    rfl
  fails h := by
    obtain ⟨-, hresult⟩ := h
    cases hresult

/-- Whatever a step does to the rest of the progress, it may not touch the depth. -/
theorem modifyGet {f : Progress → α × Progress} (hf : ∀ s, (f s).2.outerDepth = s.outerDepth) :
    Candid extensions (MonadState.modifyGet f : Render α) where
  done {s s' log a} h := by
    obtain ⟨-, hresult⟩ := h
    cases hresult
    exact hf s
  fails h := by
    obtain ⟨-, hresult⟩ := h
    cases hresult

theorem modify {f : Progress → Progress} (hf : ∀ s, (f s).outerDepth = s.outerDepth) :
    Candid extensions (modify f : Render PUnit) := modifyGet hf

theorem template (name : Text) : Candid extensions (Render.template name) where
  done h := by
    obtain ⟨answer, rest, -, -, hresult⟩ := h
    cases hresult
    rfl
  fails h hkind := by
    obtain ⟨answer, rest, rfl, rfl, hresult⟩ := h
    cases hresult
    exact ⟨rfl, .inr ⟨[], name, _, rfl, hkind⟩⟩

theorem bind {action : Render α} {f : α → Render β} (h : Candid extensions action)
    (hf : ∀ a, Candid extensions (f a)) : Candid extensions (action >>= f) where
  done hrun := by
    rcases leads_run_bind.mp hrun with
      ⟨a, s₁, before, after, -, hfirst, hrest⟩ | ⟨fault, hresult, -⟩
    · exact ((hf a).done hrest).trans (h.done hfirst)
    · cases hresult
  fails hrun hkind := by
    rcases leads_run_bind.mp hrun with
      ⟨a, s₁, before, after, rfl, hfirst, hrest⟩ | ⟨fault, hresult, hfirst⟩
    · obtain ⟨hdepth, hblame⟩ := (hf a).fails hrest hkind
      exact ⟨hdepth.trans (h.done hfirst), hblame.imp_right fun hends ↦ hends.append before⟩
    · cases hresult
      exact h.fails hfirst hkind

theorem ite {c : Prop} [Decidable c] {yes no : Render α} (hyes : Candid extensions yes)
    (hno : Candid extensions no) : Candid extensions (if c then yes else no) := by
  split
  · exact hyes
  · exact hno

/-- Of a fault that is reported as the cause of another one, the other one decides. -/
theorem causing {action : Render α} (h : Candid extensions action) {kind : FaultKind}
    (hkind : kind ≠ .templateNotFound) : Candid extensions (Render.causing kind action) where
  done {s s' log a} hrun := by
    rw [run_causing, leads_bind] at hrun
    obtain ⟨⟨fault | b, s₁⟩, before, after, rfl, hfirst, -, hresult⟩ := hrun
    · cases hresult
    · cases hresult
      exact h.done hfirst
  fails {s s' log fault} hrun hfault := absurd (kind_of_causing hrun ▸ hfault) hkind

theorem mapM {f : α → Render β} (h : ∀ a, Candid extensions (f a)) (as : List α) :
    Candid extensions (as.mapM f) := by
  induction as with
  | nil => exact .pure []
  | cons a as ih =>
    rw [List.mapM_cons]
    exact (h a).bind fun _ ↦ ih.bind fun _ ↦ .pure _

theorem filterM {f : α → Render Bool} (h : ∀ a, Candid extensions (f a)) (as : List α) :
    Candid extensions (as.filterM f) := by
  have haux : ∀ kept, Candid extensions (as.filterAuxM f kept) := by
    induction as with
    | nil => exact fun kept ↦ .pure kept
    | cons a as ih => exact fun kept ↦ (h a).bind fun _ ↦ ih _
  exact (haux []).bind fun _ ↦ .pure _

theorem forM {f : α → Render PUnit} (h : ∀ a, Candid extensions (f a)) (as : List α) :
    Candid extensions (as.forM f) := by
  induction as with
  | nil => exact .pure _
  | cons a as ih => exact (h a).bind fun _ ↦ ih

theorem ofResult {result : Except FaultKind α} (h : OnlyInvalid result) :
    Candid extensions (Render.ofResult result) := by
  cases result with
  | ok a => exact .pure a
  | error kind =>
    rw [h kind rfl]
    exact .fail (by decide)

end Candid

/-! ## Operations -/

theorem candid_perform {operation : Operation} (arguments : List Item)
    (h : ∀ fault, operation arguments = .error fault → fault.kind = .templateNotFound →
      extensions.Raises fault) : Candid extensions (perform operation arguments) := by
  rw [perform]
  split
  · exact .pure _
  · next fault hfault => exact .throw (h fault hfault)

theorem candid_applyNamed {operation? : Option Operation} {unknown : FaultKind}
    (hunknown : unknown ≠ .templateNotFound) (arguments : List Item)
    (h : ∀ operation, operation? = some operation → ∀ fault, operation arguments = .error fault →
      fault.kind = .templateNotFound → extensions.Raises fault) :
    Candid extensions (applyNamed operation? unknown arguments) := by
  rw [applyNamed.eq_def]
  split
  · next operation => exact candid_perform arguments (h operation rfl)
  · exact .fail hunknown

theorem candid_applyFilter (name : Text) (arguments : List Item) :
    Candid extensions (applyFilter extensions name arguments) := by
  refine candid_applyNamed (by decide) arguments fun operation hoperation fault hfault hkind ↦ ?_
  rw [filter?, Option.or_eq_some_iff] at hoperation
  rcases hoperation with hhost | ⟨-, hbuiltin⟩
  · exact ⟨name, operation, arguments, .inr hhost, hfault⟩
  · exact absurd hkind (Filter.needsNoView_builtin? hbuiltin arguments fault hfault)

theorem needsNoView_test? {samePlace : Bool} {name : Text} {operation : Operation}
    (h : test? extensions samePlace name = some operation) : operation.NeedsNoView := by
  rw [test?] at h
  split at h
  · cases h
    exact Test.needsNoView_ofName _
  · cases h
    exact Test.needsNoView_ofName _
  · cases h
    exact Test.needsNoView_ofTwo _
  · exact Test.needsNoView_builtin? h

theorem candid_test (samePlace : Bool) (name : Text) (arguments : List Item) :
    Candid extensions (applyNamed (test? extensions samePlace name) .unknownTest arguments) :=
  candid_applyNamed (by decide) arguments fun _ htest fault hfault hkind ↦
    absurd hkind (needsNoView_test? htest arguments fault hfault)

/-! ## The page and the frames -/

theorem candid_write (t : Text) : Candid extensions (write t) := by
  refine .modify fun s ↦ ?_
  split <;> rfl

theorem candid_captured {action : Render Unit} (h : Candid extensions action) :
    Candid extensions (captured action) :=
  (Candid.modifyGet fun _ ↦ rfl).bind fun _ ↦ h.bind fun _ ↦ .modifyGet fun _ ↦ rfl

theorem candid_checkDepth : Candid extensions checkDepth :=
  Candid.get.bind fun _ ↦ .ite (.fail (by decide)) (.pure ())

theorem candid_inFrame {action : Render α} (h : Candid extensions action) (pass? : Option Pass) :
    Candid extensions (inFrame pass? action) := by
  refine candid_checkDepth.bind fun _ ↦ .bind (.modify fun _ ↦ rfl) fun _ ↦ ?_
  exact h.bind fun a ↦ .bind (.modify fun _ ↦ rfl) fun _ ↦ .pure a

theorem candid_modifyFrame (f : Frame → Frame) : Candid extensions (modifyFrame f) :=
  .modify fun _ ↦ rfl

theorem candid_store (name : Text) (item : Item) : Candid extensions (store name item) :=
  candid_modifyFrame _

theorem candid_lookUp? (name : Text) : Candid extensions (lookUp? extensions name) := by
  refine Candid.get.bind fun s ↦ ?_
  split
  · exact .pure _
  · exact .pure _

/-! ## Calls -/

theorem candid_call (callee : Item) (arguments : List Item) :
    Candid extensions (call extensions callee arguments) := by
  rw [call.eq_def]
  split
  · next name =>
    split
    · next operation hoperation =>
      refine .bind (.modify fun _ ↦ rfl) fun _ ↦ candid_perform arguments fun fault hfault _ ↦ ?_
      exact ⟨name, operation, arguments, .inl hoperation, hfault⟩
    · exact .fail (by decide)
  · exact .fail (by decide)

theorem candid_callLoop (arguments : List Item) : Candid extensions (callLoop arguments) := by
  refine .ite (.fail (by decide)) (Candid.get.bind fun s ↦ ?_)
  exact .ite (.fail (by decide)) (.fail (by decide))

theorem candid_callLoopMethod? {place : Place} {method : Text} {arguments : List Item}
    {called : Render Item} (h : callLoopMethod? place method arguments = some called) :
    Candid extensions called := by
  rw [callLoopMethod?] at h
  split at h
  · cases h
    exact .pure _
  · cases h
    exact .modifyGet fun _ ↦ rfl
  · cases h

theorem candid_callMethod (object : Item) (method : Text) (arguments : List Item) :
    Candid extensions (callMethod extensions object method arguments) := by
  rw [callMethod.eq_def]
  split
  · next entries place? =>
    split
    · next called hcalled =>
      obtain ⟨place, -, hplace⟩ := Option.bind_eq_some_iff.mp hcalled
      exact candid_callLoopMethod? hplace
    · split
      · exact candid_call _ _
      · exact .fail (by decide)
  · exact .fail (by decide)

theorem candid_inside (item : Item) (found : Item → Item) :
    Candid extensions (inside item found) := by
  rw [inside.eq_def]
  split
  · exact .fail (by decide)
  · exact .pure _

end Render

open Render

/-! ## Expressions -/

namespace Expression

variable {extensions : Extensions} {fromBlock : Render Item}

mutual

theorem candid_evaluate (h : Candid extensions fromBlock) :
    ∀ e : Expression, Candid extensions (e.evaluate extensions fromBlock)
  | literal item => .pure item
  | name n => (candid_lookUp? n).bind fun _ ↦ .pure _
  | list elements => (candid_evaluateAll h elements).bind fun _ ↦ .pure _
  | map entries => (candid_evaluateEntries h entries).bind fun _ ↦ .pure _
  | negate e => (candid_evaluate h e).bind fun _ ↦ .ofResult (Operator.onlyInvalid_negate _)
  | not e => (candid_evaluate h e).bind fun _ ↦ .pure _
  | and left right =>
    (candid_evaluate h left).bind fun _ ↦ .ite (candid_evaluate h right) (.pure _)
  | or left right =>
    (candid_evaluate h left).bind fun _ ↦ .ite (.pure _) (candid_evaluate h right)
  | binary operator left right =>
    (candid_evaluate h left).bind fun _ ↦ (candid_evaluate h right).bind fun _ ↦
      .ofResult (operator.onlyInvalid_apply _ _)
  | comparison first links =>
    (candid_evaluate h first).bind fun a ↦ (candid_evaluateLinks h a links).bind fun _ ↦ .pure _
  | conditional condition yes no =>
    (candid_evaluate h condition).bind fun _ ↦ .ite (candid_evaluate h yes) (candid_evaluate h no)
  | field e n => (candid_evaluate h e).bind fun _ ↦ candid_inside _ _
  | subscript e key =>
    (candid_evaluate h e).bind fun _ ↦ (candid_evaluate h key).bind fun _ ↦ candid_inside _ _
  | call callee arguments => by
    have harguments := candid_evaluateAll h arguments
    cases callee with
    | name n =>
      -- two names have a meaning of their own here, and are not looked up
      rw [evaluate]
      refine harguments.bind fun items ↦ .ite (.ite h (.fail (by decide))) ?_
      refine .ite (candid_callLoop items) ((candid_lookUp? n).bind fun callee? ↦ ?_)
      split
      · exact candid_call _ items
      · exact .fail (by decide)
    | field e method =>
      rw [evaluate]
      exact (candid_evaluate h e).bind fun _ ↦ harguments.bind fun _ ↦ candid_callMethod _ method _
    | _ =>
      rw [evaluate]
      · exact (candid_evaluate h _).bind fun _ ↦ harguments.bind fun _ ↦ candid_call _ _
      all_goals nofun
  | filter n e arguments =>
    (candid_evaluate h e).bind fun _ ↦ (candid_evaluateAll h arguments).bind fun _ ↦
      candid_applyFilter n _
  | test n e arguments =>
    (candid_evaluate h e).bind fun _ ↦ (candid_evaluateAll h arguments).bind fun _ ↦
      candid_test _ n _

theorem candid_evaluateAll (h : Candid extensions fromBlock) :
    ∀ es : List Expression, Candid extensions (evaluateAll extensions fromBlock es)
  | [] => .pure []
  | e :: rest =>
    (candid_evaluate h e).bind fun _ ↦ (candid_evaluateAll h rest).bind fun _ ↦ .pure _

theorem candid_evaluateLinks (h : Candid extensions fromBlock) (a : Item) :
    ∀ links : List (Comparison × Expression),
      Candid extensions (evaluateLinks extensions fromBlock a links)
  | [] => .pure true
  | (c, e) :: rest =>
    (candid_evaluate h e).bind fun b ↦ (Candid.ofResult (c.onlyInvalid_apply a b)).bind fun _ ↦
      .ite (candid_evaluateLinks h b rest) (.pure false)

theorem candid_evaluateEntries (h : Candid extensions fromBlock) :
    ∀ entries : List (Expression × Expression),
      Candid extensions (evaluateEntries extensions fromBlock entries)
  | [] => .pure []
  | (key, value) :: rest =>
    (candid_evaluate h key).bind fun _ ↦ (candid_evaluate h value).bind fun _ ↦
      (candid_evaluateEntries h rest).bind fun _ ↦ .pure _

end

end Expression

end CompiledViews.Template
