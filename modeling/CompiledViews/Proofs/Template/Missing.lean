import CompiledViews.Proofs.Template.Candid
import CompiledViews.Template.Page

/-!
# Pages that break off for want of a view

A rendering fails for want of a view when one that it asks for is missing: one that is to be
embedded, or to be extended. It has asked for that view last, and it was not inside of an embedded
view at the time; for whatever an embedded view fails for is reported as the cause of another fault.

Statements are candid if the bodies that lie elsewhere are, by induction on their trees; and those
bodies are, by induction on the fuel. Operations that a host adds may fail as they like.
-/

namespace CompiledViews.Template

open Rendering Render

/-! ## Assignment and loops -/

section

variable {extensions : Extensions} {evaluate : Expression → Render Item}

mutual

theorem Target.candid_store (h : ∀ e, Candid extensions (evaluate e)) :
    ∀ (target : Target) (item : Item), Candid extensions (target.store evaluate item)
  | .name n, item => Render.candid_store n item
  | .field e _, _ => (h e).bind fun _ ↦ .fail (by decide)
  | .group targets, item => by
    rw [Target.store]
    split
    · next members _ =>
      exact .ite (Target.candid_storeAll h targets members) (.fail (by decide))
    · exact .fail (by decide)

theorem Target.candid_storeAll (h : ∀ e, Candid extensions (evaluate e)) :
    ∀ (targets : List Target) (items : List Item),
      Candid extensions (Target.storeAll evaluate targets items)
  | [], _ => .pure _
  | _ :: _, [] => .pure _
  | target :: targets, item :: items =>
    (Target.candid_store h target item).bind fun _ ↦ Target.candid_storeAll h targets items

end

end

section

variable {extensions : Extensions} {runBody : List Statement → Render Unit}

theorem candid_enterPass (pass : Pass) : Candid extensions (enterPass pass) :=
  candid_modifyFrame _

theorem candid_countLoop : Candid extensions countLoop := .modifyGet fun _ ↦ rfl

theorem candid_elementsOf (item : Item) : Candid extensions (elementsOf item) := by
  rw [elementsOf.eq_def]
  split
  · exact .pure _
  · exact .fail (by decide)

/-! ## Other templates -/

theorem run_firstTemplate? (name : Text) (isSafe : Bool) (rest : List Item) (s : Progress) :
    (firstTemplate? (.string name isSafe :: rest)).run.run s = fetch name fun
      | .ok t => .done (.ok (some t), s)
      | .error fault =>
        if fault.kind = .templateNotFound then (firstTemplate? rest).run.run s
        else .done (.error fault, s) := by
  refine congrArg (fetch name) (funext fun answer ↦ ?_)
  cases answer with
  | ok t => rfl
  | error fault => exact apply_ite (fun next : Render (Option Template) ↦ next.run.run s) _ _ _

/-- To look for the first template there is does not fail for want of one; and where there is none
of those named, the last one is missing. -/
theorem leads_firstTemplate? {s s' : Progress} {names : List Item} {log : Log}
    {result : Except Fault (Option Template)}
    (h : ((firstTemplate? names).run.run s).Leads log (result, s')) :
    s' = s ∧ (∀ fault, result = .error fault → fault.kind ≠ .templateNotFound) ∧
      (result = .ok none → names ≠ [] → EndsMissing log) := by
  induction names generalizing log with
  | nil =>
    obtain ⟨-, hresult⟩ := h
    cases hresult
    exact ⟨rfl, nofun, fun _ hnames ↦ absurd rfl hnames⟩
  | cons first rest ih =>
    cases first with
    | string name isSafe =>
      rw [run_firstTemplate?] at h
      obtain ⟨fault | t, after, rfl, h⟩ := h
      · dsimp only at h
        split at h
        · next hmissing =>
          obtain ⟨hs, hfault, hnone⟩ := ih h
          refine ⟨hs, hfault, fun hresult _ ↦ ?_⟩
          -- of the views after this one the last is missing, unless this is the last one itself
          by_cases hrest : rest = []
          · subst hrest
            obtain ⟨rfl, -⟩ := h
            exact ⟨[], name, fault, rfl, hmissing⟩
          · exact (hnone hresult hrest).append [(name, .error fault)]
        · next hfound =>
          obtain ⟨-, hresult⟩ := h
          cases hresult
          refine ⟨rfl, ?_, nofun⟩
          rintro fault ⟨⟩
          exact hfound
      · obtain ⟨-, hresult⟩ := h
        cases hresult
        exact ⟨rfl, nofun, nofun⟩
    | _ =>
      obtain ⟨-, hresult⟩ := h
      cases hresult
      refine ⟨rfl, ?_, nofun⟩
      rintro fault ⟨⟩
      decide

theorem run_runEmbedded (t : Template) (s : Progress) :
    (runEmbedded runBody t).run.run s =
      (checkDepth >>= fun _ ↦ causing .badInclude (runBody t.body) >>= fun _ ↦
        modify fun s₁ ↦ { s₁ with
          blocks := s.blocks, current? := s.current?, outerDepth := s.outerDepth
          lineage := s.lineage }).run.run { s with
            blocks := t.bodies, current? := none
            outerDepth := s.outerDepth + embeddingDepth } := rfl

/-- What an embedded template fails for is the cause of another fault; where it does not fail, the
depth is set back. -/
theorem candid_runEmbedded (t : Template) : Candid extensions (runEmbedded runBody t) where
  done {s s' log a} h := by
    rw [run_runEmbedded] at h
    obtain ⟨_, _, _, _, -, -, h⟩ | ⟨_, hresult, -⟩ := leads_run_bind.mp h
    · obtain ⟨_, _, _, _, -, -, -, hresult⟩ | ⟨_, hresult, -⟩ := leads_run_bind.mp h
      · cases hresult
        rfl
      · cases hresult
    · cases hresult
  fails {s s' log fault} h hkind := by
    rw [run_runEmbedded] at h
    obtain ⟨_, _, _, _, -, -, h⟩ | ⟨_, hresult, hdeep⟩ := leads_run_bind.mp h
    · obtain ⟨_, _, _, _, -, -, -, hresult⟩ | ⟨_, hresult, hbody⟩ := leads_run_bind.mp h
      · cases hresult
      · cases hresult
        cases (kind_of_causing hbody).symm.trans hkind
    · cases hresult
      cases (kind_of_checkDepth hdeep).symm.trans hkind

theorem candid_embed (item : Item) (ignoreMissing : Bool) :
    Candid extensions (embed runBody item ignoreMissing) where
  done {s s' log a} h := by
    obtain ⟨t?, s₁, before, after, -, hfirst, hrest⟩ | ⟨_, hresult, -⟩ := leads_run_bind.mp h
    · obtain ⟨rfl, -, -⟩ := leads_firstTemplate? hfirst
      cases t? with
      | some t =>
        have hcandid : Candid extensions (runEmbedded runBody t) := candid_runEmbedded t
        exact hcandid.done hrest
      | none =>
        dsimp only at hrest
        split at hrest
        · cases hrest.2
        · cases hrest.2
          rfl
    · cases hresult
  fails {s s' log fault} h hkind := by
    obtain ⟨t?, s₁, before, after, rfl, hfirst, hrest⟩ | ⟨_, hresult, hfirst⟩ :=
      leads_run_bind.mp h
    · obtain ⟨rfl, -, hnone⟩ := leads_firstTemplate? hfirst
      cases t? with
      | some t =>
        obtain ⟨hdepth, hblame⟩ := (candid_runEmbedded t).fails hrest hkind
        exact ⟨hdepth, hblame.imp_right fun hends ↦ hends.append before⟩
      | none =>
        dsimp only at hrest
        split at hrest
        · next hnames =>
          obtain ⟨rfl, hresult⟩ := hrest
          cases hresult
          rw [List.append_nil]
          refine ⟨rfl, .inr (hnone rfl ?_)⟩
          intro hempty
          simp [hempty] at hnames
        · cases hrest.2
    · cases hresult
      exact absurd hkind ((leads_firstTemplate? hfirst).2.1 _ rfl)

theorem candid_extend (item : Item) : Candid extensions (extend item) := by
  refine Candid.get.bind fun s ↦ .ite (.fail (by decide)) ?_
  cases item with
  | string name isSafe =>
    refine Candid.get.bind fun s ↦ .ite (.fail (by decide)) ((Candid.template name).bind fun t ↦ ?_)
    exact .modify fun _ ↦ rfl
  | _ => exact .fail (by decide)

theorem candid_runBlock (h : ∀ body, Candid extensions (runBody body)) (name : Text)
    (body : List Statement) (behind : Bodies) :
    Candid extensions (runBlock runBody name body behind) :=
  .bind (.modifyGet fun _ ↦ rfl) fun _ ↦ (candid_inFrame (h body) none).bind fun _ ↦
    .modify fun _ ↦ rfl

theorem candid_callBlock (h : ∀ body, Candid extensions (runBody body)) (name : Text) :
    Candid extensions (callBlock runBody name) := by
  refine Candid.get.bind fun s ↦ .ite ?_ (.pure ())
  split
  · next body behind _ => exact candid_runBlock h name body behind
  · exact .fail (by decide)

theorem candid_fromBlock (h : ∀ body, Candid extensions (runBody body)) :
    Candid extensions (fromBlock runBody) := by
  refine Candid.get.bind fun s ↦ ?_
  split
  · next name body behind _ =>
    have hblock := candid_captured (candid_runBlock h name body behind)
    exact (hblock.causing (by decide)).bind fun _ ↦ .pure _
  · exact .fail (by decide)

/-! ## Statements -/

namespace Statement

theorem candid_valueOf (h : ∀ body, Candid extensions (runBody body)) (e : Expression) :
    Candid extensions (valueOf extensions runBody e) :=
  e.candid_evaluate (candid_fromBlock h)

theorem candid_selected (h : ∀ body, Candid extensions (runBody body)) (target : Target)
    (condition : Expression) (items : List Item) :
    Candid extensions (selected extensions runBody target condition items) := by
  refine candid_inFrame (.filterM (fun item ↦ ?_) items) none
  exact (target.candid_store (candid_valueOf h) item).bind fun _ ↦
    (candid_valueOf h condition).bind fun _ ↦ .pure _

theorem candid_filtered (h : ∀ body, Candid extensions (runBody body)) :
    ∀ (item : Item) (filters : List (Text × List Expression)),
      Candid extensions (filtered extensions runBody item filters)
  | _, [] => .pure _
  | item, (name, arguments) :: rest => by
    refine (Candid.mapM (candid_valueOf h) arguments).bind fun items ↦ ?_
    exact (candid_applyFilter name (item :: items)).bind fun item ↦ candid_filtered h item rest

mutual

theorem candid_run (h : ∀ body, Candid extensions (runBody body)) :
    ∀ s : Statement, Candid extensions (s.run extensions runBody)
  | text t => candid_write t
  | output e => (candid_valueOf h e).bind fun _ ↦ candid_write _
  | conditional test yes no =>
    (candid_valueOf h test).bind fun _ ↦ .ite (candid_runAll h yes) (candid_runAll h no)
  | loop target source filter body otherwise => by
    rw [run]
    refine (candid_valueOf h source).bind fun item ↦ (candid_elementsOf item).bind fun all ↦ ?_
    -- what comes after the choice of the elements is the same for all and for some of them
    have hpasses (items : List Item) : Candid extensions (do
        let loop ← countLoop
        inFrame none <| (passes loop items).forM fun (item, pass) ↦ do
          enterPass pass
          target.store (valueOf extensions runBody) item
          runAll extensions runBody body
        if items.isEmpty then runAll extensions runBody otherwise) := by
      refine candid_countLoop.bind fun loop ↦ .bind (candid_inFrame (.forM ?_ _) none) fun _ ↦ ?_
      · intro (item, pass)
        exact (candid_enterPass pass).bind fun _ ↦
          (target.candid_store (candid_valueOf h) item).bind fun _ ↦ candid_runAll h body
      · exact .ite (candid_runAll h otherwise) (.pure ())
    cases filter with
    | none => exact hpasses all
    | some condition => exact (candid_selected h target condition all).bind hpasses
  | assign target e =>
    (candid_valueOf h e).bind fun _ ↦ target.candid_store (candid_valueOf h) _
  | capture target filters body =>
    (candid_captured (candid_runAll h body)).bind fun _ ↦
      (candid_filtered h _ filters).bind fun _ ↦ target.candid_store (candid_valueOf h) _
  | block name _ => candid_callBlock h name
  | extend e => (candid_valueOf h e).bind fun _ ↦ candid_extend _
  | embed e ignoreMissing => (candid_valueOf h e).bind fun _ ↦ candid_embed _ ignoreMissing

theorem candid_runAll (h : ∀ body, Candid extensions (runBody body)) :
    ∀ body : List Statement, Candid extensions (runAll extensions runBody body)
  | [] => .pure ()
  | s :: rest => (candid_run h s).bind fun _ ↦ candid_runAll h rest

end

end Statement

end

/-! ## Templates -/

variable {extensions : Extensions}

theorem candid_runBody (fuel : Nat) (body : List Statement) :
    Candid extensions (runBody extensions fuel body) := by
  induction fuel generalizing body with
  | zero => exact .fail (by decide)
  | succ fuel ih =>
    rw [runBody]
    refine .bind (.modifyGet fun _ ↦ rfl) fun outer ↦ ?_
    refine (Statement.candid_runAll ih body).bind fun _ ↦ Candid.get.bind fun s ↦ ?_
    have hback : Candid extensions (modify fun s ↦ { s with layout? := outer }) :=
      .modify fun _ ↦ rfl
    dsimp only
    split
    · next layout _ _ =>
      -- the body was that of an extension: what it is an extension of is run with the fuel left
      exact .bind (.modify fun _ ↦ rfl) fun _ ↦ (ih layout).bind fun _ ↦ hback
    · exact hback

/-- How far it comes with a template and data, and whether it breaks off. -/
def rendered (t : Template) (extensions : Extensions) (data : ViewData) :
    Rendering (Except Fault Unit × Progress) :=
  (runBody extensions bodyLimit t.body).run.run (.start t data)

theorem leads_render {t : Template} {data : ViewData} {log : Log} {page : Page} :
    (t.render extensions data).Leads log page ↔
      ∃ result s, (t.rendered extensions data).Leads log (result, s) ∧
        page = ⟨result.map fun _ ↦ s.written.reverse.flatten, s.calls.reverse⟩ := by
  constructor
  · intro h
    obtain ⟨⟨result, s⟩, before, after, rfl, hbefore, rfl, rfl⟩ := leads_bind.mp h
    rw [List.append_nil]
    exact ⟨result, s, hbefore, rfl⟩
  · rintro ⟨result, s, h, rfl⟩
    exact leads_bind.mpr ⟨(result, s), log, [], (List.append_nil log).symm, h, rfl, rfl⟩

/-- **Missing views.** Where rendering a template fails for want of a view, it was not inside of an
embedded view; and the host has raised the fault, or the view asked for last is missing. -/
theorem endsMissing_of_rendered {t : Template} {data : ViewData} {log : Log} {fault : Fault}
    {s : Progress} (h : (t.rendered extensions data).Leads log (.error fault, s))
    (hkind : fault.kind = .templateNotFound) :
    s.outerDepth = 0 ∧ (extensions.Raises fault ∨ EndsMissing log) :=
  (candid_runBody bodyLimit t.body).fails h hkind

end CompiledViews.Template
