import CompiledViews.Proofs.Template.Tracking
import CompiledViews.Proofs.ViewEngine.Missing

/-!
# The sanitize filter

An engine is told the name of the filter that variables are passed through, and puts in one of that
name that leaves values alone. For a name that no filter has, templates can hardly tell: they would
have to test whether there is such a filter. But the name may be that of a filter which the engine
has, and then that one is gone, for templates that apply it to other things too.

What is added to the language plays no part in loading views. So two engines that differ in nothing
else give the same answers to the same questions for templates, and differ in nothing else
afterwards.
-/

namespace CompiledViews

open Template (Extensions Fault)
open Template.Rendering (Log)
open Template.Render (filter?)
open Disk

namespace Template.Extensions

/-- The additions with a filter put in, in the place of any other one of its name. -/
def withFilter (extensions : Extensions) (name : Text) (operation : Template.Operation) :
    Extensions :=
  { extensions with filters := extensions.filters.insert name operation }

theorem filter?_withFilter (extensions : Extensions) (name other : Text)
    (operation : Template.Operation) :
    filter? (extensions.withFilter name operation) other
      = if other = name then some operation else filter? extensions other := by
  rw [filter?, withFilter, Entries.get?_insert]
  split
  · exact Option.some_or
  · rfl

/-- The additions with a filter that refuses whatever it is applied to, as if there were none. -/
def refusing (extensions : Extensions) (name : Text) : Extensions :=
  extensions.withFilter name fun _ ↦ Template.Operation.refuse .unknownFilter

variable {extensions extended : Extensions} {name : Text}

theorem withhold_refusing (hfunctions : extended.functions = extensions.functions)
    (hfilters : ∀ other, other ≠ name → filter? extended other = filter? extensions other) :
    (extensions.refusing name).Withhold extended name where
  functions := hfunctions
  filters other hother := by
    rw [hfilters other hother, refusing, filter?_withFilter, if_neg hother]
  refuses operation hoperation arguments := by
    rw [refusing, filter?_withFilter, if_pos rfl] at hoperation
    cases hoperation
    rfl

end Template.Extensions

namespace ViewEngine

variable {engine engine' : ViewEngine} {available : Capabilities} {name : Text} {disk disk' : Disk}
  {extended : Extensions} {withheld : Text}

/-- The engine, for a language with other additions. -/
def speaking (engine : ViewEngine) (extensions : Extensions) : ViewEngine :=
  { engine with extensions }

/-! ## Loading does not depend on the language -/

theorem run_load_speaking (available : Capabilities) (name : Text) (engine : ViewEngine)
    (extended : Extensions) (disk : Disk) :
    ((load available name).run.run (engine.speaking extended)).run disk =
      let loading := ((load available name).run.run engine).run disk
      ((loading.1.1, loading.1.2.speaking extended), loading.2) := by
  have hsource : (engine.speaking extended).sourcePath? = engine.sourcePath? := rfl
  have houtput : (engine.speaking extended).outputPath? = engine.outputPath? := rfl
  have hreusable : (engine.speaking extended).reusableOutput? = engine.reusableOutput? := rfl
  have hexpand : (engine.speaking extended).expandSource = engine.expandSource := rfl
  rw [run_load, run_load, hsource, houtput, hreusable, hexpand]
  rcases engine.sourcePath? name with _ | source
  · rfl
  rcases engine.outputPath? name with _ | output
  · rfl
  dsimp only
  rcases disk.modified source with fault | modified
  · cases fault <;> rfl
  · dsimp only
    rcases engine.reusableOutput? output modified disk with _ | text <;> rfl

theorem run_template_speaking (extended : Extensions) {answer : Except Fault Template}
    (hrun : ((template available name).run engine).run disk = ((answer, engine'), disk')) :
    ((template available name).run (engine.speaking extended)).run disk
      = ((answer, engine'.speaking extended), disk') := by
  have hparsed : (engine.speaking extended).parsed = engine.parsed := rfl
  rw [template, Stateful.run_bind, Stateful.run_get] at hrun ⊢
  dsimp only at hrun ⊢
  rw [hparsed]
  cases hknown : engine.parsed.get? name with
  | some t =>
    rw [hknown] at hrun
    cases hrun
    rfl
  | none =>
    rw [hknown] at hrun
    simp only [Stateful.run_bind] at hrun ⊢
    rw [run_load_speaking]
    rcases hload : ((load available name).run.run engine).run disk with
      ⟨⟨fault | _ | text, engine₁⟩, disk₁⟩
    all_goals
      rw [hload] at hrun
      dsimp only at hrun ⊢
    · cases hrun
      rfl
    · cases hrun
      rfl
    · cases hparse : Template.parse text with
      | error kind =>
        rw [hparse] at hrun
        cases hrun
        rfl
      | ok t =>
        rw [hparse] at hrun
        cases hrun
        rfl

theorem replies_speaking (extended : Extensions) {log : Log}
    (h : Replies available log engine disk engine' disk') :
    Replies available log (engine.speaking extended) disk (engine'.speaking extended) disk' := by
  induction log generalizing engine disk with
  | nil =>
    obtain ⟨rfl, rfl⟩ := h
    exact ⟨rfl, rfl⟩
  | cons question rest ih =>
    obtain ⟨engine₁, disk₁, hrun, hrest⟩ := h
    exact ⟨engine₁.speaking extended, disk₁, run_template_speaking extended hrun, ih hrest⟩

theorem run_lookUp_speaking (extended : Extensions) {answer : Except Fault Template}
    (hrun : ((lookUp available name).run engine).run disk = ((answer, engine'), disk')) :
    ((lookUp available name).run (engine.speaking extended)).run disk
      = ((answer, engine'.speaking extended), disk') := by
  rw [lookUp, Stateful.run_bind] at hrun ⊢
  have hreload : (reloadChanged.run (engine.speaking extended)).run disk
      = (((), ((reloadChanged.run engine).run disk).1.2.speaking extended), disk) := by
    change (((), if engine.loaded.any fun entry ↦ hasChanged entry.2 disk then _ else _), disk)
      = (((), (if engine.loaded.any fun entry ↦ hasChanged entry.2 disk then _ else _ :
        ViewEngine).speaking extended), disk)
    split <;> rfl
  rw [hreload]
  exact run_template_speaking extended hrun

/-! ## Rendering in two languages -/

/-- Whether a template is looked at while a view is rendered: its own one, or one that its page asks
for. -/
def Consults (engine : ViewEngine) (available : Capabilities) (name : Text) (data : ViewData)
    (disk : Disk) (t : Template) : Prop :=
  ∃ own engine₁ disk₁ log page engine₂ disk₂,
    ((lookUp available name).run engine).run disk = ((.ok own, engine₁), disk₁) ∧
    (own.render engine.extensions data).Leads log page ∧
    Replies available log engine₁ disk₁ engine₂ disk₂ ∧
    (t = own ∨ ∃ other, (other, .ok t) ∈ log)

/-- Whether the rendering of a view has failed because of a filter that does not exist. -/
def LacksFilter (name : Text) (answer : Except RenderError Text) : Prop :=
  ∃ fault, answer = .error (.ofFault name fault) ∧ fault.root = .plain .unknownFilter

/-- Where a view has a template, its page is asked for with what the engine knows then. -/
theorem run_render_of_lookUp {t : Template} {data : ViewData} {page : Template.Page}
    {engine₁ engine₂ : ViewEngine} {disk₁ disk₂ : Disk}
    (hlookUp : ((lookUp available name).run engine).run disk = ((.ok t, engine₁), disk₁))
    (hpage : (((t.render engine₁.extensions data).run (template available)).run engine₁).run disk₁
      = ((page, engine₂), disk₂)) :
    ((render available name data).run engine).run disk =
      ((page.result.mapError (.ofFault name),
        { engine₂ with calls := engine₂.calls ++ page.calls }), disk₂) := by
  rw [lookUp, Stateful.run_bind] at hlookUp
  rw [render, Stateful.run_bind, Stateful.run_bind, hlookUp]
  dsimp only
  rw [Stateful.run_bind, Stateful.run_get, Stateful.run_bind, hpage]
  rfl

/-- An answer that does not come from the withheld filter is given in the other language too, and
the engines differ in nothing else afterwards. -/
theorem run_render_of_withhold (h : engine.extensions.Withhold extended withheld) {data : ViewData}
    {answer : Except RenderError Text}
    (htests : ∀ t, engine.Consults available name data disk t →
      engine.extensions.TestAlike extended t.testNames)
    (hrun : ((render available name data).run engine).run disk = ((answer, engine'), disk'))
    (hanswer : ¬ LacksFilter name answer) :
    ((render available name data).run (engine.speaking extended)).run disk
      = ((answer, engine'.speaking extended), disk') := by
  rcases hlookUp : ((lookUp available name).run engine).run disk with ⟨⟨fault | t, engine₁⟩, disk₁⟩
  · cases (render_of_lookUp_error data hlookUp).symm.trans hrun
    exact render_of_lookUp_error data (run_lookUp_speaking extended hlookUp)
  rcases hpage : (((t.render engine₁.extensions data).run (template available)).run engine₁).run
    disk₁ with ⟨⟨page, engine₂⟩, disk₂⟩
  cases (run_render_of_lookUp hlookUp hpage).symm.trans hrun
  rw [(onward_lookUp hlookUp).extensions] at hpage
  obtain ⟨log, hleads, hreplies⟩ := run_template_iff.mp hpage
  have hconsults (t' : Template) (ht' : t' = t ∨ ∃ other, (other, .ok t') ∈ log) :
      engine.Consults available name data disk t' :=
    ⟨t, engine₁, disk₁, log, page, engine₂, disk', hlookUp, hleads, hreplies, ht'⟩
  rcases Template.leads_render_of_withhold h (htests t (hconsults t (.inl rfl)))
    (fun other t' ht' ↦ htests t' (hconsults t' (.inr ⟨other, ht'⟩))) hleads with
    ⟨fault, hfault, hroot⟩ | hleads'
  · refine absurd ⟨fault, ?_, hroot⟩ hanswer
    rw [hfault]
    rfl
  · have hpage' : (((t.render extended data).run (template available)).run
        (engine₁.speaking extended)).run disk₁ = ((page, engine₂.speaking extended), disk') :=
      run_template_iff.mpr ⟨log, hleads', replies_speaking extended hreplies⟩
    exact run_render_of_lookUp (run_lookUp_speaking extended hlookUp) hpage'

/-! ## The sanitize filter -/

theorem extensions_withSanitizeFilter (engine : ViewEngine) (filter : Text) :
    (engine.withSanitizeFilter filter).extensions =
      if filter = sanitizeFilter then engine.extensions
      else engine.extensions.withFilter filter identityFilter := by
  rw [withSanitizeFilter]
  split <;> rfl

theorem filter?_withSanitizeFilter (engine : ViewEngine) (filter : Text) :
    (engine.withSanitizeFilter filter).extensions.functions = engine.extensions.functions ∧
    ∀ other, other ≠ filter →
      filter? (engine.withSanitizeFilter filter).extensions other
        = filter? engine.extensions other := by
  rw [extensions_withSanitizeFilter]
  split
  · exact ⟨rfl, fun _ _ ↦ rfl⟩
  · refine ⟨rfl, fun other hother ↦ ?_⟩
    rw [Extensions.filter?_withFilter, if_neg hother]

/-- Telling the name of the sanitize filter changes nothing else in an engine that has loaded
nothing yet. -/
theorem withSanitizeFilter_eq_speaking (hparsed : engine.parsed = []) (hloaded : engine.loaded = [])
    (filter : Text) :
    engine.withSanitizeFilter filter
      = engine.speaking (engine.withSanitizeFilter filter).extensions := by
  rw [withSanitizeFilter]
  split
  · rfl
  · rw [configure, forget, ← hparsed, ← hloaded]
    rfl

theorem isSome_filter?_withSanitizeFilter {filter : Text}
    (h : (filter? engine.extensions filter).isSome = true) :
    (filter? (engine.withSanitizeFilter filter).extensions filter).isSome = true := by
  rw [extensions_withSanitizeFilter]
  split
  · exact h
  · rw [Extensions.filter?_withFilter, if_pos rfl, Option.isSome_some]

end ViewEngine

open ViewEngine in
/-- **The sanitize filter.** An engine that has loaded nothing yet is told the name of the sanitize
filter; all that changes is the filter of that name.

If the engine has such a filter, a view is rendered as before if it can be rendered where the filter
refuses whatever it is applied to, that is to say if its page does not come to apply it. If the
engine has no such filter, a view is rendered as before if its page does not fail for want of it,
unless a template tests for filters. -/
theorem render_withSanitizeFilter (engine : ViewEngine) (filter : Text) (available : Capabilities)
    (name : Text) (data : ViewData) (disk : Disk) :
    let sanitizing := engine.speaking (engine.withSanitizeFilter filter).extensions
    let refusing := engine.speaking (engine.extensions.refusing filter)
    (engine.parsed = [] → engine.loaded = [] → engine.withSanitizeFilter filter = sanitizing) ∧
    ((filter? engine.extensions filter).isSome = true → ∀ answer engine' disk',
      ((render available name data).run refusing).run disk = ((answer, engine'), disk') →
      ¬ LacksFilter name answer →
        ((render available name data).run engine).run disk
          = ((answer, engine'.speaking engine.extensions), disk') ∧
        ((render available name data).run sanitizing).run disk
          = ((answer, engine'.speaking sanitizing.extensions), disk')) ∧
    (filter? engine.extensions filter = none →
      (∀ t, engine.Consults available name data disk t → "filter".toList ∉ t.testNames) →
      ∀ answer engine' disk',
        ((render available name data).run engine).run disk = ((answer, engine'), disk') →
        ¬ LacksFilter name answer →
          ((render available name data).run sanitizing).run disk
            = ((answer, engine'.speaking sanitizing.extensions), disk')) := by
  intro sanitizing refusing
  obtain ⟨hfunctions, hfilters⟩ := filter?_withSanitizeFilter engine filter
  refine ⟨fun hparsed hloaded ↦ withSanitizeFilter_eq_speaking hparsed hloaded filter,
    fun hthere answer engine' disk' hrun hanswer ↦ ?_,
    fun hnone htests answer engine' disk' hrun hanswer ↦ ?_⟩
  · have hrefused : (filter? (engine.extensions.refusing filter) filter).isSome = true := by
      rw [Extensions.refusing, Extensions.filter?_withFilter, if_pos rfl, Option.isSome_some]
    -- the filter may be any one, as long as there is one
    have hany (extended : Extensions)
        (hfunctions : extended.functions = engine.extensions.functions)
        (hfilters : ∀ other, other ≠ filter →
          filter? extended other = filter? engine.extensions other)
        (hthere : (filter? extended filter).isSome = true) :
        ((render available name data).run (engine.speaking extended)).run disk
          = ((answer, engine'.speaking extended), disk') := by
      have hwithhold : refusing.extensions.Withhold extended filter :=
        Extensions.withhold_refusing hfunctions hfilters
      exact run_render_of_withhold hwithhold
        (fun t _ ↦ hwithhold.testAlike_of_isSome hrefused hthere t.testNames) hrun hanswer
    exact ⟨hany engine.extensions rfl (fun _ _ ↦ rfl) hthere,
      hany sanitizing.extensions hfunctions hfilters (isSome_filter?_withSanitizeFilter hthere)⟩
  · have hwithhold : engine.extensions.Withhold sanitizing.extensions filter :=
      ⟨hfunctions, hfilters, fun _ h ↦ nomatch hnone.symm.trans h⟩
    exact run_render_of_withhold hwithhold
      (fun t ht ↦ Extensions.testAlike_of_not_mem (htests t ht)) hrun hanswer

/-! ### Views with filters

One view applies a filter, and one tests whether there is a filter. -/

def filteringDisk : Disk where
  nodes := (["views".toList], .directory 1) ::
    [("home.jinja", "\x7b\x7b 'a' | upper \x7d\x7d"),
      ("asks.jinja", "\x7b\x7b 'clean' is filter \x7d\x7d")].map fun (file, text) ↦
        (["views".toList, file.toList], .file (encode text.toList) 1)
  clock := 1
  here := []

def filteringEngine : ViewEngine :=
  (ViewEngine.new (.ofString "/views") (.ofString "/out") .empty filteringDisk).1

/-- What the engine makes of a view, where the sanitize filter has the name `filter`. -/
def filteringAnswer (filter : String) (name : String) : Except RenderError Text :=
  (((ViewEngine.render .none name.toList []).run
    (filteringEngine.withSanitizeFilter filter.toList)).run filteringDisk).1.1

theorem alone_filtering : (match (((ViewEngine.lookUp .none "home".toList).run filteringEngine).run
      filteringDisk).1.1 with
    | .ok own => own.testNames.isEmpty &&
        ((own.render filteringEngine.extensions []) matches .done _)
    | .error _ => false) = true := by decide +kernel

theorem consults_filtering {t : Template}
    (h : filteringEngine.Consults .none "home".toList [] filteringDisk t) :
    "filter".toList ∉ t.testNames := by
  obtain ⟨own, engine₁, disk₁, log, page, engine₂, disk₂, hlookUp, hleads, -, ht⟩ := h
  have hown := alone_filtering
  generalize ((ViewEngine.lookUp .none "home".toList).run filteringEngine).run filteringDisk = found
    at hown hlookUp
  cases hlookUp
  dsimp only at hown
  generalize own.render filteringEngine.extensions [] = rendering at hown hleads
  obtain ⟨hnames, hdone⟩ := Bool.and_eq_true_iff.mp hown
  rcases ht with rfl | ⟨other, hother⟩
  · rw [List.isEmpty_iff.mp hnames]
    exact List.not_mem_nil
  · cases rendering with
    | done result =>
      rw [hleads.1] at hother
      cases hother
    | fetch other next => cases hdone

/-- The first view is the same where another filter is the sanitize filter, and where a new one
is. -/
theorem render_withSanitizeFilter_filtering :
    filteringAnswer "lower" "home" = .ok "A".toList ∧
    filteringAnswer "clean" "home" = .ok "A".toList := by
  have hsuccess (text : Text) : ¬ ViewEngine.LacksFilter "home".toList (.ok text) :=
    fun ⟨_, h, _⟩ ↦ nomatch h
  constructor
  · obtain ⟨heq, hthere, -⟩ := render_withSanitizeFilter filteringEngine "lower".toList .none
      "home".toList [] filteringDisk
    have hanswer : (((ViewEngine.render .none "home".toList []).run (filteringEngine.speaking
        (filteringEngine.extensions.refusing "lower".toList))).run filteringDisk).1.1
          = .ok "A".toList := by decide +kernel
    rcases hrun : ((ViewEngine.render .none "home".toList []).run (filteringEngine.speaking
        (filteringEngine.extensions.refusing "lower".toList))).run filteringDisk with
      ⟨⟨answer, engine'⟩, disk'⟩
    rw [hrun] at hanswer
    dsimp only at hanswer
    subst hanswer
    have hsanitizing := (hthere (by decide +kernel) _ engine' disk' hrun (hsuccess _)).2
    rw [filteringAnswer, heq rfl rfl, hsanitizing]
  · obtain ⟨heq, -, hnew⟩ := render_withSanitizeFilter filteringEngine "clean".toList .none
      "home".toList [] filteringDisk
    have hanswer : (((ViewEngine.render .none "home".toList []).run filteringEngine).run
        filteringDisk).1.1 = .ok "A".toList := by decide +kernel
    rcases hrun : ((ViewEngine.render .none "home".toList []).run filteringEngine).run
      filteringDisk with ⟨⟨answer, engine'⟩, disk'⟩
    rw [hrun] at hanswer
    dsimp only at hanswer
    subst hanswer
    have hsanitizing := hnew (by decide +kernel) (fun t ht ↦ consults_filtering ht) _ engine' disk'
      hrun (hsuccess _)
    rw [filteringAnswer, heq rfl rfl, hsanitizing]

/-- A name that an engine's own filter has, and a name that a template tests. -/
theorem render_changes_filtering :
    (["upper", "clean"].all fun filter ↦ Text.isIdentifier filter.toList) = true ∧
    filteringAnswer "sanitize" "home" = .ok "A".toList ∧
    filteringAnswer "upper" "home" = .ok "a".toList ∧
    filteringAnswer "sanitize" "asks" = .ok "False".toList ∧
    filteringAnswer "clean" "asks" = .ok "True".toList := by
  decide +kernel

end CompiledViews
