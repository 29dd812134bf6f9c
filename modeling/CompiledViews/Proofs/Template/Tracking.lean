import CompiledViews.Proofs.Template.Missing
import CompiledViews.Proofs.Template.Withholding

/-!
# Pages without the filter that is withheld

Whatever is rendered goes the same way in both languages, until a withheld filter is applied. For
expressions and statements that is an induction on their trees, for bodies that lie elsewhere one on
the fuel; and what is kept of a template while its page is rendered are statements of that template.
-/

namespace CompiledViews.Template

open Rendering Render

variable {extensions extended : Extensions} {withheld : Text}

namespace Extensions.TestAlike

variable {names others : List Text} {name : Text}

theorem append (h : TestAlike extensions extended (names ++ others)) :
    TestAlike extensions extended names ∧ TestAlike extensions extended others :=
  List.forall_mem_append.mp h

theorem cons (h : TestAlike extensions extended (name :: names)) :
    (∀ samePlace, test? extended samePlace name = test? extensions samePlace name) ∧
      TestAlike extensions extended names :=
  List.forall_mem_cons.mp h

end Extensions.TestAlike

/-! ## Expressions -/

namespace Expression

variable {fromBlock fromBlock' : Render Item}

theorem evaluate_call (extensions : Extensions) (fromBlock : Render Item) {callee : Expression}
    (arguments : List Expression) (hname : ∀ n, callee ≠ name n)
    (hfield : ∀ e n, callee ≠ field e n) :
    (call callee arguments).evaluate extensions fromBlock = (do
      let callee ← callee.evaluate extensions fromBlock
      Render.call extensions callee (← evaluateAll extensions fromBlock arguments)) := by
  rw [evaluate]
  · exact hname
  · exact hfield

mutual

theorem tracks_evaluate (h : extensions.Withhold extended withheld)
    (hblock : Tracks extensions extended fromBlock fromBlock') :
    ∀ e : Expression, extensions.TestAlike extended e.testNames →
      Tracks extensions extended (e.evaluate extensions fromBlock) (e.evaluate extended fromBlock')
  | literal item, _ => .pure trivial
  | name n, _ => (tracks_lookUp? h n).bind fun _ _ ↦ .pure trivial
  | list elements, he => (tracks_evaluateAll h hblock elements he).bind fun _ _ ↦ .pure trivial
  | map entries, he => (tracks_evaluateEntries h hblock entries he).bind fun _ _ ↦ .pure trivial
  | negate e, he => (tracks_evaluate h hblock e he).bind fun _ _ ↦ .ofResult _
  | not e, he => (tracks_evaluate h hblock e he).bind fun _ _ ↦ .pure trivial
  | and left right, he =>
    (tracks_evaluate h hblock left he.append.1).bind fun _ _ ↦
      .ite (tracks_evaluate h hblock right he.append.2) (.pure trivial)
  | or left right, he =>
    (tracks_evaluate h hblock left he.append.1).bind fun _ _ ↦
      .ite (.pure trivial) (tracks_evaluate h hblock right he.append.2)
  | binary operator left right, he =>
    (tracks_evaluate h hblock left he.append.1).bind fun _ _ ↦
      (tracks_evaluate h hblock right he.append.2).bind fun _ _ ↦ .ofResult _
  | comparison first links, he =>
    (tracks_evaluate h hblock first he.append.1).bind fun a _ ↦
      (tracks_evaluateLinks h hblock a links he.append.2).bind fun _ _ ↦ .pure trivial
  | conditional condition yes no, he =>
    (tracks_evaluate h hblock condition he.append.1).bind fun _ _ ↦
      .ite (tracks_evaluate h hblock yes he.append.2.append.1)
        (tracks_evaluate h hblock no he.append.2.append.2)
  | field e n, he => (tracks_evaluate h hblock e he).bind fun _ _ ↦ tracks_inside _ _
  | subscript e key, he =>
    (tracks_evaluate h hblock e he.append.1).bind fun _ _ ↦
      (tracks_evaluate h hblock key he.append.2).bind fun _ _ ↦ tracks_inside _ _
  | call callee arguments, he => by
    have harguments := tracks_evaluateAll h hblock arguments he.append.2
    cases callee with
    | name n =>
      rw [evaluate, evaluate]
      refine harguments.bind fun items _ ↦ .ite (.ite hblock (.fail _)) ?_
      refine .ite (tracks_callLoop items) ((tracks_lookUp? h n).bind fun callee? _ ↦ ?_)
      split
      · exact tracks_call h _ items
      · exact .fail _
    | field e method =>
      rw [evaluate, evaluate]
      exact (tracks_evaluate h hblock e he.append.1).bind fun _ _ ↦ harguments.bind fun _ _ ↦
        tracks_callMethod h _ method _
    -- any other callee is an expression
    | _ =>
      rw [evaluate_call extensions, evaluate_call extended]
      · exact (tracks_evaluate h hblock _ he.append.1).bind fun _ _ ↦ harguments.bind fun _ _ ↦
          tracks_call h _ _
      all_goals nofun
  | filter n e arguments, he =>
    (tracks_evaluate h hblock e he.append.1).bind fun _ _ ↦
      (tracks_evaluateAll h hblock arguments he.append.2).bind fun _ _ ↦ tracks_applyFilter h n _
  | test n e arguments, he =>
    (tracks_evaluate h hblock e he.cons.2.append.1).bind fun _ _ ↦
      (tracks_evaluateAll h hblock arguments he.cons.2.append.2).bind fun _ _ ↦
        tracks_test he.cons.1 _ _

theorem tracks_evaluateAll (h : extensions.Withhold extended withheld)
    (hblock : Tracks extensions extended fromBlock fromBlock') :
    ∀ es : List Expression, extensions.TestAlike extended (testNamesOfAll es) →
      Tracks extensions extended (evaluateAll extensions fromBlock es)
        (evaluateAll extended fromBlock' es)
  | [], _ => .pure trivial
  | e :: rest, he =>
    (tracks_evaluate h hblock e he.append.1).bind fun _ _ ↦
      (tracks_evaluateAll h hblock rest he.append.2).bind fun _ _ ↦ .pure trivial

theorem tracks_evaluateLinks (h : extensions.Withhold extended withheld)
    (hblock : Tracks extensions extended fromBlock fromBlock') (a : Item) :
    ∀ links : List (Comparison × Expression),
      extensions.TestAlike extended (testNamesOfLinks links) →
        Tracks extensions extended (evaluateLinks extensions fromBlock a links)
          (evaluateLinks extended fromBlock' a links)
  | [], _ => .pure trivial
  | (c, e) :: rest, he =>
    (tracks_evaluate h hblock e he.append.1).bind fun b _ ↦
      (TracksWith.ofResult (c.apply a b)).bind fun _ _ ↦
        .ite (tracks_evaluateLinks h hblock b rest he.append.2) (.pure trivial)

theorem tracks_evaluateEntries (h : extensions.Withhold extended withheld)
    (hblock : Tracks extensions extended fromBlock fromBlock') :
    ∀ entries : List (Expression × Expression),
      extensions.TestAlike extended (testNamesOfEntries entries) →
        Tracks extensions extended (evaluateEntries extensions fromBlock entries)
          (evaluateEntries extended fromBlock' entries)
  | [], _ => .pure trivial
  | (key, value) :: rest, he =>
    (tracks_evaluate h hblock key he.append.1).bind fun _ _ ↦
      (tracks_evaluate h hblock value he.append.2.append.1).bind fun _ _ ↦
        (tracks_evaluateEntries h hblock rest he.append.2.append.2).bind fun _ _ ↦ .pure trivial

end

end Expression

/-! ## Assignment and loops -/

section

variable {evaluate evaluate' : Expression → Render Item}

mutual

theorem Target.tracks_store
    (h : ∀ e, extensions.TestAlike extended e.testNames →
      Tracks extensions extended (evaluate e) (evaluate' e)) :
    ∀ (target : Target) (item : Item), extensions.TestAlike extended target.testNames →
      Tracks extensions extended (target.store evaluate item) (target.store evaluate' item)
  | .name n, item, _ => Render.tracks_store n item
  | .field e _, _, he => (h e he).bind fun _ _ ↦ .fail _
  | .group targets, item, he => by
    rw [Target.store, Target.store]
    split
    · next members _ => exact .ite (Target.tracks_storeAll h targets members he) (.fail _)
    · exact .fail _

theorem Target.tracks_storeAll
    (h : ∀ e, extensions.TestAlike extended e.testNames →
      Tracks extensions extended (evaluate e) (evaluate' e)) :
    ∀ (targets : List Target) (items : List Item),
      extensions.TestAlike extended (Target.testNamesOfAll targets) →
        Tracks extensions extended (Target.storeAll evaluate targets items)
          (Target.storeAll evaluate' targets items)
  | [], _, _ => .pure trivial
  | _ :: _, [], _ => .pure trivial
  | target :: targets, item :: items, he =>
    (Target.tracks_store h target item he.append.1).bind fun _ _ ↦
      Target.tracks_storeAll h targets items he.append.2

end

end

theorem tracks_enterPass (pass : Pass) :
    Tracks extensions extended (enterPass pass) (enterPass pass) := tracks_modifyFrame _

theorem tracks_countLoop : Tracks extensions extended countLoop countLoop :=
  .modifyGet fun _ hs ↦ ⟨trivial, hs.blocks, hs.current, hs.layout⟩

theorem tracks_elementsOf (item : Item) :
    Tracks extensions extended (elementsOf item) (elementsOf item) := by
  rw [elementsOf.eq_def]
  split
  · exact .pure trivial
  · exact .fail _

/-! ## Other templates -/

section

variable {blocks others : Entries Bodies}

theorem testAlike_bodies {t : Template} (h : extensions.TestAlike extended (testNames t)) :
    extensions.BlocksTestAlike extended t.bodies := by
  intro entry hentry body hbody
  obtain ⟨block, hblock, rfl⟩ := List.mem_map.mp (Entries.mem_ofList hentry)
  obtain rfl := List.mem_singleton.mp hbody
  intro name hname
  exact h name (Statement.mem_testNamesOfAll_of_blocks t.body hblock hname)

theorem testAlike_behind
    (h : extensions.BlocksTestAlike extended blocks)
    (hothers : extensions.BlocksTestAlike extended others) :
    extensions.BlocksTestAlike extended (behind blocks others) := by
  induction others generalizing blocks with
  | nil => exact h
  | cons first rest ih =>
    refine ih (fun entry hentry body hbody ↦ ?_)
      fun entry hentry ↦ hothers entry (List.mem_cons_of_mem _ hentry)
    rcases Entries.mem_insert hentry with rfl | hentry
    · rcases List.mem_append.mp hbody with hbody | hbody
      · cases hbodies : blocks.get? first.1 with
        | none => rw [hbodies] at hbody; cases hbody
        | some bodies =>
          rw [hbodies] at hbody
          exact h _ (Entries.mem_of_get? hbodies) body hbody
      · exact hothers first List.mem_cons_self body hbody
    · exact h entry hentry body hbody

end

section

variable (extensions extended) in
/-- Whether bodies are run alike in two languages, if their tests mean the same in both. -/
def TracksBodies (runBody runBody' : List Statement → Render Unit) : Prop :=
  ∀ body, extensions.TestAlike extended (Statement.testNamesOfAll body) →
    Tracks extensions extended (runBody body) (runBody' body)

variable {runBody runBody' : List Statement → Render Unit}

theorem tracks_firstTemplate? (names : List Item) :
    TracksWith extensions extended
      (fun t? ↦ ∀ t ∈ t?, extensions.TestAlike extended (testNames t))
      (firstTemplate? names) (firstTemplate? names) := by
  induction names with
  | nil => exact .pure nofun
  | cons first rest ih =>
    cases first with
    | string name isSafe =>
      refine (TracksWith.answer name).bind fun answer hanswer ↦ ?_
      cases answer with
      | ok t =>
        refine .pure ?_
        rintro _ ⟨⟩
        exact hanswer t rfl
      | error fault => exact .ite ih (.throw fault)
    | _ => exact .fail _

theorem tracks_runEmbedded {t : Template} (ht : extensions.TestAlike extended (testNames t))
    (h : Tracks extensions extended (runBody t.body) (runBody' t.body)) :
    Tracks extensions extended (runEmbedded runBody t) (runEmbedded runBody' t) := by
  refine TracksWith.get.bind fun before hbefore ↦ ?_
  refine TracksWith.bind (Q := fun _ ↦ True) (.modifyGet fun _ _ ↦
    ⟨trivial, testAlike_bodies ht, nofun, hbefore.layout⟩) fun _ _ ↦ ?_
  refine tracks_checkDepth.bind fun _ _ ↦ (h.causing _).bind fun _ _ ↦ ?_
  exact .modify fun s hs ↦ ⟨hbefore.blocks, hbefore.current, hs.layout⟩

theorem tracks_embed
    (h : TracksBodies extensions extended runBody runBody') (item : Item)
    (ignoreMissing : Bool) :
    Tracks extensions extended (embed runBody item ignoreMissing)
      (embed runBody' item ignoreMissing) := by
  refine (tracks_firstTemplate? (namesIn item)).bind fun t? ht ↦ ?_
  cases t? with
  | some t => exact tracks_runEmbedded (ht t rfl) (h t.body (ht t rfl))
  | none => exact .ite (.fail _) (.pure trivial)

theorem tracks_extend (item : Item) : Tracks extensions extended (extend item) (extend item) := by
  refine TracksWith.get.bind fun _ _ ↦ .ite (.fail _) ?_
  cases item with
  | string name isSafe =>
    refine TracksWith.get.bind fun _ _ ↦ .ite (.fail _)
      ((TracksWith.template name).bind fun t ht ↦ ?_)
    refine .modify fun s hs ↦ ⟨testAlike_behind hs.blocks (testAlike_bodies ht), hs.current, ?_⟩
    rintro _ ⟨⟩
    exact ht
  | _ => exact .fail _

theorem tracks_runBlock {body : List Statement} {behind : Bodies}
    (h : Tracks extensions extended (runBody body) (runBody' body))
    (hbehind : ∀ other ∈ behind, extensions.TestAlike extended (Statement.testNamesOfAll other))
    (name : Text) :
    Tracks extensions extended (runBlock runBody name body behind)
      (runBlock runBody' name body behind) := by
  refine TracksWith.bind
    (Q := fun before ↦ ∀ current ∈ before, ∀ other ∈ current.2,
      extensions.TestAlike extended (Statement.testNamesOfAll other))
    (.modifyGet fun s hs ↦ ⟨hs.current, hs.blocks, ?_, hs.layout⟩) fun before hbefore ↦ ?_
  · rintro _ ⟨⟩
    exact hbehind
  · exact (tracks_inFrame h none).bind fun _ _ ↦ .modify fun s hs ↦ ⟨hs.blocks, hbefore, hs.layout⟩

theorem tracks_callBlock
    (h : TracksBodies extensions extended runBody runBody') (name : Text) :
    Tracks extensions extended (callBlock runBody name) (callBlock runBody' name) := by
  refine TracksWith.get.bind fun s hs ↦ .ite ?_ (.pure trivial)
  split
  · next body behind hbodies =>
    have hall := hs.blocks _ (Entries.mem_of_get? hbodies)
    exact tracks_runBlock (h body (hall body List.mem_cons_self))
      (fun other hother ↦ hall other (List.mem_cons_of_mem _ hother)) name
  · exact .fail _

theorem tracks_fromBlock
    (h : TracksBodies extensions extended runBody runBody') :
    Tracks extensions extended (fromBlock runBody) (fromBlock runBody') := by
  refine TracksWith.get.bind fun s hs ↦ ?_
  split
  · next name body behind hcurrent =>
    have hall := hs.current _ hcurrent
    have hblock := tracks_captured <| tracks_runBlock (h body (hall body List.mem_cons_self))
      (fun other hother ↦ hall other (List.mem_cons_of_mem _ hother)) name
    exact (hblock.causing _).bind fun _ _ ↦ .pure trivial
  · exact .fail _

/-! ## Statements -/

namespace Statement

theorem tracks_valueOf (hwithhold : extensions.Withhold extended withheld)
    (h : TracksBodies extensions extended runBody runBody') (e : Expression)
    (he : extensions.TestAlike extended e.testNames) :
    Tracks extensions extended (valueOf extensions runBody e) (valueOf extended runBody' e) :=
  e.tracks_evaluate hwithhold (tracks_fromBlock h) he

theorem tracks_selected (hwithhold : extensions.Withhold extended withheld)
    (h : TracksBodies extensions extended runBody runBody') {target : Target}
    {condition : Expression} (htarget : extensions.TestAlike extended target.testNames)
    (hcondition : extensions.TestAlike extended condition.testNames) (items : List Item) :
    Tracks extensions extended (selected extensions runBody target condition items)
      (selected extended runBody' target condition items) := by
  refine tracks_inFrame (.filterM (fun item ↦ ?_) items) none
  exact (target.tracks_store (tracks_valueOf hwithhold h) item htarget).bind fun _ _ ↦
    (tracks_valueOf hwithhold h condition hcondition).bind fun _ _ ↦ .pure trivial

theorem tracks_filtered (hwithhold : extensions.Withhold extended withheld)
    (h : TracksBodies extensions extended runBody runBody') :
    ∀ (item : Item) (filters : List (Text × List Expression)),
      extensions.TestAlike extended (filters.flatMap (·.2.flatMap Expression.testNames)) →
        Tracks extensions extended (filtered extensions runBody item filters)
          (filtered extended runBody' item filters)
  | _, [], _ => .pure trivial
  | item, (name, arguments) :: rest, hfilters => by
    rw [List.flatMap_cons] at hfilters
    obtain ⟨harguments, hrest⟩ := hfilters.append
    refine (TracksWith.mapM fun e he ↦ tracks_valueOf hwithhold h e fun n hn ↦
      harguments n (List.mem_flatMap.mpr ⟨e, he, hn⟩)).bind fun items _ ↦ ?_
    exact (tracks_applyFilter hwithhold name (item :: items)).bind fun item _ ↦
      tracks_filtered hwithhold h item rest hrest

mutual

theorem tracks_run (hwithhold : extensions.Withhold extended withheld)
    (h : TracksBodies extensions extended runBody runBody') :
    ∀ s : Statement, extensions.TestAlike extended s.testNames →
      Tracks extensions extended (s.run extensions runBody) (s.run extended runBody')
  | text t, _ => tracks_write t
  | output e, hs => (tracks_valueOf hwithhold h e hs).bind fun _ _ ↦ tracks_write _
  | conditional test yes no, hs =>
    (tracks_valueOf hwithhold h test hs.append.1).bind fun _ _ ↦
      .ite (tracks_runAll hwithhold h yes hs.append.2.append.1)
        (tracks_runAll hwithhold h no hs.append.2.append.2)
  | loop target source filter body otherwise, hs => by
    obtain ⟨htarget, hs⟩ := hs.append
    obtain ⟨hsource, hs⟩ := hs.append
    obtain ⟨hfilter, hs⟩ := hs.append
    obtain ⟨hbody, hotherwise⟩ := hs.append
    rw [run, run]
    refine (tracks_valueOf hwithhold h source hsource).bind fun item _ ↦
      (tracks_elementsOf item).bind fun all _ ↦ ?_
    -- what comes after the choice of the elements is the same for all and for some of them
    have hpasses (items : List Item) : Tracks extensions extended (do
        let loop ← countLoop
        inFrame none <| (passes loop items).forM fun (item, pass) ↦ do
          enterPass pass
          target.store (valueOf extensions runBody) item
          runAll extensions runBody body
        if items.isEmpty then runAll extensions runBody otherwise) (do
        let loop ← countLoop
        inFrame none <| (passes loop items).forM fun (item, pass) ↦ do
          enterPass pass
          target.store (valueOf extended runBody') item
          runAll extended runBody' body
        if items.isEmpty then runAll extended runBody' otherwise) := by
      refine tracks_countLoop.bind fun loop _ ↦
        .bind (tracks_inFrame (.forM ?_ _) none) fun _ _ ↦ ?_
      · intro (item, pass)
        exact (tracks_enterPass pass).bind fun _ _ ↦
          (target.tracks_store (tracks_valueOf hwithhold h) item htarget).bind fun _ _ ↦
            tracks_runAll hwithhold h body hbody
      · exact .ite (tracks_runAll hwithhold h otherwise hotherwise) (.pure trivial)
    cases filter with
    | none => exact hpasses all
    | some condition =>
      have hcondition : extensions.TestAlike extended condition.testNames := by
        simpa using hfilter
      exact (tracks_selected hwithhold h htarget hcondition all).bind fun items _ ↦ hpasses items
  | assign target e, hs =>
    (tracks_valueOf hwithhold h e hs.append.2).bind fun _ _ ↦
      target.tracks_store (tracks_valueOf hwithhold h) _ hs.append.1
  | capture target filters body, hs =>
    (tracks_captured (tracks_runAll hwithhold h body hs.append.2.append.2)).bind fun _ _ ↦
      (tracks_filtered hwithhold h _ filters hs.append.2.append.1).bind fun _ _ ↦
        target.tracks_store (tracks_valueOf hwithhold h) _ hs.append.1
  | block name _, _ => tracks_callBlock h name
  | extend e, hs => (tracks_valueOf hwithhold h e hs).bind fun _ _ ↦ tracks_extend _
  | embed e ignoreMissing, hs =>
    (tracks_valueOf hwithhold h e hs).bind fun _ _ ↦ tracks_embed h _ ignoreMissing

theorem tracks_runAll (hwithhold : extensions.Withhold extended withheld)
    (h : TracksBodies extensions extended runBody runBody') :
    ∀ body : List Statement, extensions.TestAlike extended (testNamesOfAll body) →
      Tracks extensions extended (runAll extensions runBody body) (runAll extended runBody' body)
  | [], _ => .pure trivial
  | s :: rest, hs =>
    (tracks_run hwithhold h s hs.append.1).bind fun _ _ ↦
      tracks_runAll hwithhold h rest hs.append.2

end

end Statement

end

/-! ## Templates -/

theorem tracks_runBody (h : extensions.Withhold extended withheld) (fuel : Nat) :
    TracksBodies extensions extended (runBody extensions fuel) (runBody extended fuel) := by
  induction fuel with
  | zero => exact fun _ _ ↦ .fail _
  | succ fuel ih =>
    intro body hbody
    rw [runBody, runBody]
    -- a body starts without a layout; the one there was before is put back in the end
    refine TracksWith.bind
      (Q := fun outer ↦ ∀ layout ∈ outer,
        extensions.TestAlike extended (Statement.testNamesOfAll layout.1))
      (.modifyGet fun s hs ↦ ⟨hs.layout, hs.blocks, hs.current,
        fun _ hnone ↦ (Option.not_mem_none _ hnone).elim⟩) fun outer houter ↦ ?_
    refine (Statement.tracks_runAll h ih body hbody).bind fun _ _ ↦
      TracksWith.get.bind fun s hs ↦ ?_
    have hback : Tracks extensions extended
        (modify fun s ↦ { s with layout? := outer }) (modify fun s ↦ { s with layout? := outer }) :=
      .modify fun s hs ↦ ⟨hs.blocks, hs.current, houter⟩
    rcases hlayout : s.layout? with _ | ⟨layout, discarding⟩
    · exact hback
    · refine TracksWith.bind (.modify fun s hs ↦ ⟨hs.blocks, hs.current,
        fun _ hnone ↦ (Option.not_mem_none _ hnone).elim⟩) fun _ _ ↦ ?_
      exact (ih layout (hs.layout _ hlayout)).bind fun _ _ ↦ hback

/-- A page that does not fail because of the withheld filter is the same in the other language, and
asks for the same templates. -/
theorem leads_render_of_withhold (h : extensions.Withhold extended withheld) {t : Template}
    (ht : extensions.TestAlike extended (testNames t)) {data : ViewData} {log : Log} {page : Page}
    (hlog : LogTestsAlike extensions extended log)
    (hrun : (t.render extensions data).Leads log page) :
    Withheld page.result ∨ (t.render extended data).Leads log page := by
  obtain ⟨result, s, hrendered, rfl⟩ := leads_render.mp hrun
  have hstart : (Progress.start t data).TestsAlike extensions extended :=
    ⟨testAlike_bodies ht, nofun, nofun⟩
  rcases (tracks_runBody h bodyLimit t.body ht).leads hstart hlog hrendered with
    ⟨fault, rfl, hroot⟩ | ⟨hrendered', -⟩
  · exact .inl ⟨fault, rfl, hroot⟩
  · exact .inr (leads_render.mpr ⟨result, s, hrendered', rfl⟩)

end CompiledViews.Template
