import CompiledViews.Proofs.Entries
import CompiledViews.Proofs.Template.Asking

/-!
# Filters that are withheld

Two languages are compared that differ in one filter only. One of them withholds it: there is no
such filter, or it refuses whatever it is applied to. The other one has any filter in its place.

No template can tell that it was refused a filter: the fault goes through to the end of the page,
and on the way it is only reported as the cause of others. So a page that does not end with this
fault has never come to an application of the filter, and it comes out the same in the other
language.

There is a second way to look at a filter, which is to test whether there is one of that name. That
makes no difference where the filter is only refused; where it does not exist, templates must not
ask. Statements keep to what is asked in them, and so do the blocks and layouts that are kept of
templates while a page is rendered; that is the invariant here.
-/

namespace CompiledViews.Template

open Rendering

/-! ## The tests in a template -/

namespace Expression

mutual

/-- The names of the tests in an expression. -/
def testNames : Expression → List Text
  | literal _ => []
  | name _ => []
  | list elements => testNamesOfAll elements
  | map entries => testNamesOfEntries entries
  | negate e => e.testNames
  | not e => e.testNames
  | and left right => left.testNames ++ right.testNames
  | or left right => left.testNames ++ right.testNames
  | binary _ left right => left.testNames ++ right.testNames
  | comparison first links => first.testNames ++ testNamesOfLinks links
  | conditional condition yes no => condition.testNames ++ (yes.testNames ++ no.testNames)
  | field e _ => e.testNames
  | subscript e key => e.testNames ++ key.testNames
  | call callee arguments => callee.testNames ++ testNamesOfAll arguments
  | filter _ e arguments => e.testNames ++ testNamesOfAll arguments
  | test n e arguments => n :: (e.testNames ++ testNamesOfAll arguments)

def testNamesOfAll : List Expression → List Text
  | [] => []
  | e :: rest => e.testNames ++ testNamesOfAll rest

def testNamesOfEntries : List (Expression × Expression) → List Text
  | [] => []
  | (key, value) :: rest => key.testNames ++ (value.testNames ++ testNamesOfEntries rest)

def testNamesOfLinks : List (Comparison × Expression) → List Text
  | [] => []
  | (_, e) :: rest => e.testNames ++ testNamesOfLinks rest

end

end Expression

mutual

def Target.testNames : Target → List Text
  | .name _ => []
  | .field e _ => e.testNames
  | .group targets => Target.testNamesOfAll targets

def Target.testNamesOfAll : List Target → List Text
  | [] => []
  | target :: rest => target.testNames ++ Target.testNamesOfAll rest

end

namespace Statement

mutual

def testNames : Statement → List Text
  | text _ => []
  | output e => e.testNames
  | conditional test yes no => test.testNames ++ (testNamesOfAll yes ++ testNamesOfAll no)
  | loop target source filter body otherwise =>
    target.testNames ++ (source.testNames ++ (filter.toList.flatMap Expression.testNames ++
      (testNamesOfAll body ++ testNamesOfAll otherwise)))
  | assign target e => target.testNames ++ e.testNames
  | capture target filters body =>
    target.testNames ++ (filters.flatMap (·.2.flatMap Expression.testNames) ++ testNamesOfAll body)
  | block _ body => testNamesOfAll body
  | extend e => e.testNames
  | embed e _ => e.testNames

def testNamesOfAll : List Statement → List Text
  | [] => []
  | s :: rest => s.testNames ++ testNamesOfAll rest

end

mutual

theorem mem_testNames_of_blocks {name : Text} {body : List Statement} {n : Text} :
    ∀ s : Statement, (name, body) ∈ s.blocks → n ∈ testNamesOfAll body → n ∈ s.testNames
  | text _, h, _ => by cases h
  | output _, h, _ => by cases h
  | conditional test yes no, h, hn => by
    rw [testNames]
    refine List.mem_append_right _ (List.mem_append.mpr ?_)
    exact (List.mem_append.mp h).imp (mem_testNamesOfAll_of_blocks yes · hn)
      (mem_testNamesOfAll_of_blocks no · hn)
  | loop target source filter inner otherwise, h, hn => by
    rw [testNames]
    refine List.mem_append_right _ (List.mem_append_right _ (List.mem_append_right _ ?_))
    exact List.mem_append.mpr <| (List.mem_append.mp h).imp
      (mem_testNamesOfAll_of_blocks inner · hn) (mem_testNamesOfAll_of_blocks otherwise · hn)
  | assign .., h, _ => by cases h
  | capture target filters inner, h, hn => by
    rw [testNames]
    exact List.mem_append_right _
      (List.mem_append_right _ (mem_testNamesOfAll_of_blocks inner h hn))
  | block other inner, h, hn => by
    rcases List.mem_cons.mp h with heq | h
    · cases heq
      exact hn
    · exact mem_testNamesOfAll_of_blocks inner h hn
  | extend _, h, _ => by cases h
  | embed .., h, _ => by cases h

theorem mem_testNamesOfAll_of_blocks {name : Text} {body : List Statement} {n : Text} :
    ∀ ss : List Statement, (name, body) ∈ blocksOfAll ss → n ∈ testNamesOfAll body →
      n ∈ testNamesOfAll ss
  | [], h, _ => by cases h
  | s :: rest, h, hn => by
    rw [testNamesOfAll]
    exact List.mem_append.mpr <| (List.mem_append.mp h).imp
      (mem_testNames_of_blocks s · hn) (mem_testNamesOfAll_of_blocks rest · hn)

end

end Statement

def testNames (t : Template) : List Text := Statement.testNamesOfAll t.body

/-! ## Two languages -/

/-- What a fault was caused by in the end. -/
def Fault.root : Fault → Fault
  | within _ cause => cause.root
  | fault => fault

/-- Whether something has failed because of a filter that does not exist. -/
def Withheld {α : Type} (result : Except Fault α) : Prop :=
  ∃ fault, result = .error fault ∧ fault.root = .plain .unknownFilter

/-- Whether two hosts add the same to the language, but for one filter, which the first one
withholds. -/
structure Extensions.Withhold (extensions extended : Extensions) (withheld : Text) : Prop where
  functions : extended.functions = extensions.functions
  filters : ∀ name, name ≠ withheld →
    Render.filter? extended name = Render.filter? extensions name
  refuses : ∀ operation, Render.filter? extensions withheld = some operation → ∀ arguments,
    operation arguments = .error (.plain .unknownFilter)

/-- Whether tests of these names mean the same with both. -/
def Extensions.TestAlike (extensions extended : Extensions) (names : List Text) : Prop :=
  ∀ name ∈ names, ∀ samePlace,
    Render.test? extended samePlace name = Render.test? extensions samePlace name

/-- Whether all tests in the bodies of blocks mean the same with both. -/
def Extensions.BlocksTestAlike (extensions extended : Extensions) (blocks : Entries Bodies) :
    Prop :=
  ∀ entry ∈ blocks, ∀ body ∈ entry.2,
    TestAlike extensions extended (Statement.testNamesOfAll body)

namespace Extensions

variable {extensions extended : Extensions} {withheld : Text} {names : List Text}

theorem Withhold.testAlike_of_isSome (h : Withhold extensions extended withheld)
    (hthere : (Render.filter? extensions withheld).isSome = true)
    (hthere' : (Render.filter? extended withheld).isSome = true) (names : List Text) :
    TestAlike extensions extended names := by
  intro name _ samePlace
  have hsame : (fun n ↦ (Render.filter? extended n).isSome)
      = fun n ↦ (Render.filter? extensions n).isSome := by
    funext n
    by_cases hn : n = withheld
    · rw [hn, hthere, hthere']
    · rw [h.filters n hn]
  rw [Render.test?, Render.test?, hsame]

theorem testAlike_of_not_mem (h : "filter".toList ∉ names) :
    TestAlike extensions extended names := by
  intro name hname samePlace
  rw [Render.test?, Render.test?]
  split
  · next hfilter =>
    refine absurd hname ?_
    rwa [← String.toList_ofList (l := name), hfilter]
  · rfl
  · rfl
  · rfl

end Extensions

/-! ## Steps in two languages -/

section

variable (extensions extended : Extensions)

/-- Whether what a rendering keeps of templates has only tests that mean the same in both
languages. -/
structure Progress.TestsAlike (s : Progress) : Prop where
  blocks : Extensions.BlocksTestAlike extensions extended s.blocks
  current : ∀ current ∈ s.current?, ∀ body ∈ current.2,
    Extensions.TestAlike extensions extended (Statement.testNamesOfAll body)
  layout : ∀ layout ∈ s.layout?,
    Extensions.TestAlike extensions extended (Statement.testNamesOfAll layout.1)

/-- Whether the templates that were asked for have only such tests. -/
def LogTestsAlike (log : Log) : Prop :=
  ∀ name t, (name, .ok t) ∈ log → Extensions.TestAlike extensions extended (testNames t)

/-- Whether a step in the second language does what one in the first does, unless that fails because
of the withheld filter. What it results in has the property `Q` then. -/
structure Render.TracksWith {α : Type} (Q : α → Prop) (action action' : Render α) : Prop where
  leads : ∀ {s s' log result}, s.TestsAlike extensions extended →
    LogTestsAlike extensions extended log → (action.run.run s).Leads log (result, s') →
      Withheld result ∨ (action'.run.run s).Leads log (result, s') ∧
        s'.TestsAlike extensions extended ∧ ∀ a, result = .ok a → Q a

/-- The same, with nothing more to say of what the step results in. -/
abbrev Render.Tracks {α : Type} (action action' : Render α) : Prop :=
  Render.TracksWith extensions extended (fun _ ↦ True) action action'

end

variable {extensions extended : Extensions}

theorem LogTestsAlike.append {before after : Log}
    (h : LogTestsAlike extensions extended (before ++ after)) :
    LogTestsAlike extensions extended before ∧ LogTestsAlike extensions extended after :=
  ⟨fun name t ht ↦ h name t (List.mem_append_left _ ht),
    fun name t ht ↦ h name t (List.mem_append_right _ ht)⟩

namespace Render

variable {withheld : Text} {α β : Type}

namespace TracksWith

variable {Q : α → Prop} {R : β → Prop} {action action' : Render α}

theorem pure {a : α} (h : Q a) : TracksWith extensions extended Q (Pure.pure a) (Pure.pure a) where
  leads {s s' log result} hs _ hrun := by
    obtain ⟨-, hresult⟩ := id hrun
    cases hresult
    refine .inr ⟨hrun, hs, ?_⟩
    rintro _ ⟨⟩
    exact h

theorem throw (fault : Fault) :
    TracksWith extensions extended Q (MonadExcept.throw fault : Render α)
      (MonadExcept.throw fault) where
  leads {s s' log result} hs _ hrun := by
    obtain ⟨-, hresult⟩ := id hrun
    cases hresult
    exact .inr ⟨hrun, hs, nofun⟩

theorem fail (kind : FaultKind) :
    TracksWith extensions extended Q (Render.fail kind : Render α) (Render.fail kind) := throw _

theorem refused (action' : Render α) :
    TracksWith extensions extended Q (Render.fail .unknownFilter : Render α) action' where
  leads {s s' log result} _ _ hrun := by
    obtain ⟨-, hresult⟩ := hrun
    cases hresult
    exact .inl ⟨_, rfl, rfl⟩

theorem get : TracksWith extensions extended (Progress.TestsAlike extensions extended)
    (MonadState.get : Render Progress) MonadState.get where
  leads {s s' log result} hs _ hrun := by
    obtain ⟨-, hresult⟩ := id hrun
    cases hresult
    refine .inr ⟨hrun, hs, ?_⟩
    rintro _ ⟨⟩
    exact hs

theorem modifyGet {f : Progress → α × Progress}
    (h : ∀ s, s.TestsAlike extensions extended →
      Q (f s).1 ∧ (f s).2.TestsAlike extensions extended) :
    TracksWith extensions extended Q (MonadState.modifyGet f : Render α)
      (MonadState.modifyGet f) where
  leads {s s' log result} hs _ hrun := by
    obtain ⟨-, hresult⟩ := id hrun
    cases hresult
    refine .inr ⟨hrun, (h s hs).2, ?_⟩
    rintro _ ⟨⟩
    exact (h s hs).1

theorem modify {f : Progress → Progress}
    (h : ∀ s, s.TestsAlike extensions extended → (f s).TestsAlike extensions extended) :
    Tracks extensions extended (modify f : Render PUnit) (modify f) :=
  modifyGet fun s hs ↦ ⟨trivial, h s hs⟩

theorem template (name : Text) :
    TracksWith extensions extended (fun t ↦ Extensions.TestAlike extensions extended (testNames t))
      (Render.template name) (Render.template name) where
  leads {s s' log result} hs hlog hrun := by
    obtain ⟨answer, rest, rfl, rfl, hresult⟩ := id hrun
    cases hresult
    refine .inr ⟨hrun, hs, ?_⟩
    rintro t rfl
    exact hlog name t List.mem_cons_self

/-- To be told that there is no template is no failure by itself. -/
theorem answer (name : Text) :
    TracksWith extensions extended
      (fun answer ↦ ∀ t, answer = .ok t → Extensions.TestAlike extensions extended (testNames t))
      (ExceptT.lift (Render.template name).run : Render (Except Fault Template))
      (ExceptT.lift (Render.template name).run) where
  leads {s s' log result} hs hlog hrun := by
    obtain ⟨answer, rest, rfl, rfl, hresult⟩ := id hrun
    cases hresult
    refine .inr ⟨hrun, hs, ?_⟩
    rintro _ ⟨⟩ t rfl
    exact hlog name t List.mem_cons_self

theorem bind {f f' : α → Render β} (h : TracksWith extensions extended Q action action')
    (hf : ∀ a, Q a → TracksWith extensions extended R (f a) (f' a)) :
    TracksWith extensions extended R (action >>= f) (action' >>= f') where
  leads {s s' log result} hs hlog hrun := by
    rcases leads_run_bind.mp hrun with
      ⟨a, s₁, before, after, rfl, hfirst, hrest⟩ | ⟨fault, rfl, hfirst⟩
    · obtain ⟨hbefore, hafter⟩ := hlog.append
      rcases h.leads hs hbefore hfirst with ⟨fault, hresult, -⟩ | ⟨hfirst', hs₁, ha⟩
      · cases hresult
      · refine ((hf a (ha a rfl)).leads hs₁ hafter hrest).imp_right fun ⟨hrest', hs', hb⟩ ↦
          ⟨?_, hs', hb⟩
        exact leads_run_bind.mpr (.inl ⟨a, s₁, before, after, rfl, hfirst', hrest'⟩)
    · rcases h.leads hs hlog hfirst with ⟨_, hfault, hroot⟩ | ⟨hfirst', hs', -⟩
      · cases hfault
        exact .inl ⟨fault, rfl, hroot⟩
      · exact .inr ⟨leads_run_bind.mpr (.inr ⟨fault, rfl, hfirst'⟩), hs', nofun⟩

theorem ite {c : Prop} [Decidable c] {no no' : Render α}
    (h : TracksWith extensions extended Q action action')
    (hno : TracksWith extensions extended Q no no') :
    TracksWith extensions extended Q (if c then action else no) (if c then action' else no') := by
  split
  · exact h
  · exact hno

/-- A refusal stays one when it is reported as the cause of another fault. -/
theorem causing (h : TracksWith extensions extended Q action action') (kind : FaultKind) :
    TracksWith extensions extended Q (Render.causing kind action)
      (Render.causing kind action') where
  leads {s s' log result} hs hlog hrun := by
    rw [run_causing, leads_bind] at hrun
    rw [run_causing, leads_bind]
    obtain ⟨⟨fault | a, s₁⟩, before, after, rfl, hfirst, rfl, hresult⟩ := hrun
    · cases hresult
      rw [List.append_nil] at hlog ⊢
      rcases h.leads hs hlog hfirst with ⟨_, hfault, hroot⟩ | ⟨hfirst', hs', -⟩
      · cases hfault
        exact .inl ⟨_, rfl, hroot⟩
      · exact .inr ⟨⟨_, before, [], (List.append_nil before).symm, hfirst', rfl, rfl⟩, hs', nofun⟩
    · cases hresult
      rw [List.append_nil] at hlog ⊢
      rcases h.leads hs hlog hfirst with ⟨_, hfault, -⟩ | ⟨hfirst', hs', ha⟩
      · cases hfault
      · refine .inr ⟨⟨_, before, [], (List.append_nil before).symm, hfirst', rfl, rfl⟩, hs', ?_⟩
        rintro _ ⟨⟩
        exact ha a rfl

theorem mapM {f f' : α → Render β} {as : List α}
    (h : ∀ a ∈ as, Tracks extensions extended (f a) (f' a)) :
    Tracks extensions extended (as.mapM f) (as.mapM f') := by
  induction as with
  | nil => exact .pure trivial
  | cons a as ih =>
    rw [List.mapM_cons, List.mapM_cons]
    refine (h a List.mem_cons_self).bind fun _ _ ↦ ?_
    exact (ih fun b hb ↦ h b (List.mem_cons_of_mem _ hb)).bind fun _ _ ↦ .pure trivial

theorem filterM {f f' : α → Render Bool} (h : ∀ a, Tracks extensions extended (f a) (f' a))
    (as : List α) : Tracks extensions extended (as.filterM f) (as.filterM f') := by
  have haux :
      ∀ kept, Tracks extensions extended (as.filterAuxM f kept) (as.filterAuxM f' kept) := by
    induction as with
    | nil => exact fun kept ↦ .pure trivial
    | cons a as ih => exact fun kept ↦ (h a).bind fun _ _ ↦ ih _
  exact (haux []).bind fun _ _ ↦ .pure trivial

theorem forM {f f' : α → Render PUnit} (h : ∀ a, Tracks extensions extended (f a) (f' a))
    (as : List α) : Tracks extensions extended (as.forM f) (as.forM f') := by
  induction as with
  | nil => exact .pure trivial
  | cons a as ih => exact (h a).bind fun _ _ ↦ ih

theorem ofResult (result : Except FaultKind α) :
    Tracks extensions extended (Render.ofResult result) (Render.ofResult result) := by
  cases result with
  | ok a => exact .pure trivial
  | error kind => exact .fail kind

end TracksWith

/-! ## Operations -/

theorem tracks_perform (operation : Operation) (arguments : List Item) :
    Tracks extensions extended (perform operation arguments) (perform operation arguments) := by
  rw [perform]
  split
  · exact .pure trivial
  · exact .throw _

theorem tracks_applyNamed (operation? : Option Operation) (unknown : FaultKind)
    (arguments : List Item) :
    Tracks extensions extended (applyNamed operation? unknown arguments)
      (applyNamed operation? unknown arguments) := by
  rw [applyNamed.eq_def]
  split
  · exact tracks_perform _ arguments
  · exact .fail unknown

/-- To apply the withheld filter fails in the first language. All others are the same. -/
theorem tracks_applyFilter (h : extensions.Withhold extended withheld) (name : Text)
    (arguments : List Item) :
    Tracks extensions extended (applyFilter extensions name arguments)
      (applyFilter extended name arguments) := by
  by_cases hname : name = withheld
  · have hrefused : applyFilter extensions name arguments = Render.fail .unknownFilter := by
      rw [applyFilter, hname, applyNamed.eq_def]
      split
      · next operation hoperation => rw [perform, h.refuses operation hoperation]; rfl
      · rfl
    rw [hrefused]
    exact .refused _
  · rw [applyFilter, applyFilter, h.filters name hname]
    exact tracks_applyNamed _ _ arguments

theorem tracks_test {name : Text}
    (h : ∀ samePlace, test? extended samePlace name = test? extensions samePlace name)
    (samePlace : Bool) (arguments : List Item) :
    Tracks extensions extended (applyNamed (test? extensions samePlace name) .unknownTest arguments)
      (applyNamed (test? extended samePlace name) .unknownTest arguments) := by
  rw [h]
  exact tracks_applyNamed _ _ arguments

/-! ## The page and the frames -/

theorem tracks_write (t : Text) : Tracks extensions extended (write t) (write t) := by
  refine .modify fun s hs ↦ ?_
  split
  · exact hs
  · exact ⟨hs.blocks, hs.current, hs.layout⟩

theorem tracks_captured {action action' : Render Unit}
    (h : Tracks extensions extended action action') :
    Tracks extensions extended (captured action) (captured action') := by
  refine (TracksWith.modifyGet (Q := fun _ ↦ True) fun s hs ↦
    ⟨trivial, hs.blocks, hs.current, hs.layout⟩).bind fun _ _ ↦ h.bind fun _ _ ↦ ?_
  exact .modifyGet fun s hs ↦ ⟨trivial, hs.blocks, hs.current, hs.layout⟩

theorem tracks_checkDepth : Tracks extensions extended checkDepth checkDepth :=
  TracksWith.get.bind fun _ _ ↦ .ite (.fail _) (.pure trivial)

theorem tracks_inFrame {action action' : Render α} (h : Tracks extensions extended action action')
    (pass? : Option Pass) :
    Tracks extensions extended (inFrame pass? action) (inFrame pass? action') := by
  refine tracks_checkDepth.bind fun _ _ ↦ TracksWith.bind
    (.modify fun s hs ↦ ⟨hs.blocks, hs.current, hs.layout⟩) fun _ _ ↦ ?_
  exact h.bind fun a _ ↦ TracksWith.bind
    (.modify fun s hs ↦ ⟨hs.blocks, hs.current, hs.layout⟩) fun _ _ ↦ .pure trivial

theorem tracks_modifyFrame (f : Frame → Frame) :
    Tracks extensions extended (modifyFrame f) (modifyFrame f) :=
  .modify fun _ hs ↦ ⟨hs.blocks, hs.current, hs.layout⟩

theorem tracks_store (name : Text) (item : Item) :
    Tracks extensions extended (store name item) (store name item) := tracks_modifyFrame _

theorem tracks_lookUp? (h : extensions.Withhold extended withheld) (name : Text) :
    Tracks extensions extended (lookUp? extensions name) (lookUp? extended name) := by
  refine TracksWith.get.bind fun s _ ↦ ?_
  rw [h.functions]
  split
  · exact .pure trivial
  · exact .pure trivial

/-! ## Calls -/

theorem tracks_call (h : extensions.Withhold extended withheld) (callee : Item)
    (arguments : List Item) :
    Tracks extensions extended (call extensions callee arguments)
      (call extended callee arguments) := by
  rw [call.eq_def, call.eq_def, h.functions]
  split
  · split
    · refine TracksWith.bind (.modify fun s hs ↦ ⟨hs.blocks, hs.current, hs.layout⟩) fun _ _ ↦ ?_
      exact tracks_perform _ arguments
    · exact .fail _
  · exact .fail _

theorem tracks_callLoop (arguments : List Item) :
    Tracks extensions extended (callLoop arguments) (callLoop arguments) :=
  .ite (.fail _) (TracksWith.get.bind fun _ _ ↦ .ite (.fail _) (.fail _))

theorem tracks_callLoopMethod? {place : Place} {method : Text} {arguments : List Item}
    {called : Render Item} (h : callLoopMethod? place method arguments = some called) :
    Tracks extensions extended called called := by
  rw [callLoopMethod?] at h
  split at h
  · cases h
    exact .pure trivial
  · cases h
    exact .modifyGet fun s hs ↦ ⟨trivial, hs.blocks, hs.current, hs.layout⟩
  · cases h

theorem tracks_callMethod (h : extensions.Withhold extended withheld) (object : Item)
    (method : Text) (arguments : List Item) :
    Tracks extensions extended (callMethod extensions object method arguments)
      (callMethod extended object method arguments) := by
  rw [callMethod.eq_def, callMethod.eq_def]
  split
  · split
    · next called hcalled =>
      obtain ⟨place, -, hplace⟩ := Option.bind_eq_some_iff.mp hcalled
      exact tracks_callLoopMethod? hplace
    · split
      · exact tracks_call h _ arguments
      · exact .fail _
  · exact .fail _

theorem tracks_inside (item : Item) (found : Item → Item) :
    Tracks extensions extended (inside item found) (inside item found) := by
  rw [inside.eq_def]
  split
  · exact .fail _
  · exact .pure trivial

end Render

end CompiledViews.Template
