import CompiledViews.Directive.Builtin
import CompiledViews.Proofs.Template.Inclusion
import CompiledViews.Proofs.ViewEngine.Missing

/-!
# Directives that cannot be expanded, at any depth

A view whose directives cannot be expanded cannot be rendered, and neither can a view that includes
it, or one that includes such a view, and so on. What the engine answers is told by the outermost
fault. It is a directive's error for the view itself, and for one that includes it directly, since a
page that asks for a view has the same fault as that view. From there on the fault is wrapped, and
the answer is that the template has failed, with the directive's error at the end of the chain of
causes.
-/

namespace CompiledViews

open Template (Fault)
open Template.Rendering (Log)
open Disk

namespace ViewEngine

variable {engine : ViewEngine} {available : Capabilities} {name : Text} {disk : Disk}
  {error : DirectiveError}

/-! ## The view that fails -/

/-- Whether a view's source is at hand and can be read, and its directives cannot be expanded.
Nothing is remembered of the view, and there is no output file that will do. -/
structure Unexpandable (engine : ViewEngine) (available : Capabilities) (name : Text)
    (error : DirectiveError) (disk : Disk) : Prop where
  unknown : engine.parsed.get? name = none
  source : ∃ source output modified text, engine.sourcePath? name = some source ∧
    engine.outputPath? name = some output ∧ disk.modified source = .ok modified ∧
    engine.reusableOutput? output modified disk = none ∧ disk.readText source = .ok text ∧
    engine.registry.expand available text = .error error

theorem Unexpandable.template (h : engine.Unexpandable available name error disk) :
    ∃ engine', ((template available name).run engine).run disk
      = ((.error (.unexpandable name error), engine'), disk) := by
  obtain ⟨source, output, modified, text, hsource, houtput, hmodified, hreuse, htext, hexpand⟩ :=
    h.source
  have hexpansion : engine.plain.expandSource available name source disk
      = .error (.unexpandable name error) := by
    rw [PlainEngine.expandSource, htext]
    change (engine.registry.expand available text).mapError _ = _
    rw [hexpand]
    rfl
  have hload : ((load available name).run.run engine).run disk
      = ((.error (.unexpandable name error), engine.noteSource name source modified), disk) := by
    rw [run_load, hsource, houtput]
    dsimp only
    rw [hmodified]
    dsimp only
    rw [hreuse, run_expandSource, hexpansion]
    rfl
  refine ⟨engine.noteSource name source modified, ?_⟩
  rw [ViewEngine.template, Stateful.run_bind, Stateful.run_get]
  dsimp only
  rw [h.unknown]
  dsimp only
  rw [Stateful.run_bind, hload]
  rfl

/-! ## The views that include it -/

/-- Whether views of which each includes the next lead from the view `name` to one whose directives
cannot be expanded. The views behind the first one are `others`, in their order. -/
inductive LeadsToUnexpandable (engine : ViewEngine) (available : Capabilities) (name : Text)
    (data : ViewData) (disk : Disk) (error : DirectiveError) : (others : List Text) → Prop
  /-- It is the view itself. -/
  | itself {engine₀ : ViewEngine}
    (hreload : (reloadChanged.run engine).run disk = (((), engine₀), disk))
    (h : engine₀.Unexpandable available name error disk) :
    LeadsToUnexpandable engine available name data disk error []
  /-- The view has a template, and its page comes to ask the engine for the last one. -/
  | behind {t : Template} {engine₁ engine₂ : ViewEngine} {disk₁ disk₂ : Disk} {log : Log}
    {through : List Text} {last : Text}
    (hrun : ((lookUp available name).run engine).run disk = ((.ok t, engine₁), disk₁))
    (hincludes : Template.Includes engine.extensions last Template.bodyLimit t.body
      (.start t data) log through)
    (hreplies : Replies available log engine₁ disk₁ engine₂ disk₂)
    (h : engine₂.Unexpandable available last error disk₂) :
    LeadsToUnexpandable engine available name data disk error (through ++ [last])

end ViewEngine

namespace RenderError

theorem ofFault_unexpandable (view name : Text) (error : DirectiveError) :
    ofFault view (.unexpandable name error) = .directive view error := rfl

theorem ofFault_buried (view : Text) (fault : Fault) (depth : Nat) :
    ofFault view (fault.buried (depth + 1)) = .template view (fault.buried (depth + 1)) := rfl

end RenderError

open ViewEngine in
/-- **Directive errors.** Where views that each include the next lead from the view asked for to one
whose directives cannot be expanded, the engine answers with the error of the directive if that is
the view itself or one that it includes directly, and only then. Behind more views than that, it
answers that the template has failed; the directive's error is the cause at the end of the chain,
which has one link for each of the views in between. -/
theorem render_of_leadsToUnexpandable {engine : ViewEngine} {available : Capabilities} {name : Text}
    {data : ViewData} {disk : Disk} {error : DirectiveError} {others : List Text}
    (h : engine.LeadsToUnexpandable available name data disk error others) :
    ((((render available name data).run engine).run disk).1.1 = .error (.directive name error) ↔
      others.length ≤ 1) ∧
    ∀ through last, others = through ++ [last] → through ≠ [] →
      (((render available name data).run engine).run disk).1.1
        = .error (.template name (Fault.buried through.length (.unexpandable last error))) := by
  cases h with
  | @itself engine₀ hreload h =>
    obtain ⟨engine₁, hrun⟩ := h.template
    have hlookUp : ((lookUp available name).run engine).run disk
        = ((.error (.unexpandable name error), engine₁), disk) := by
      rw [lookUp, Stateful.run_bind, hreload]
      exact hrun
    rw [render_of_lookUp_error data hlookUp, RenderError.ofFault_unexpandable]
    refine ⟨⟨fun _ ↦ Nat.zero_le 1, fun _ ↦ rfl⟩, fun through last hnil _ ↦ ?_⟩
    simp at hnil
  | @behind t engine₁ engine₂ disk₁ disk₂ log through last hrun hincludes hreplies h =>
    obtain ⟨engine₃, hlast⟩ := h.template
    have hfails : (((render available name data).run engine).run disk).1.1
        = .error (.ofFault name (Fault.buried through.length (.unexpandable last error))) := by
      have hkind : (Fault.unexpandable last error).kind ≠ .templateNotFound := by
        simp [Fault.kind]
      obtain ⟨s, hleads⟩ := hincludes.leads hkind
      refine (render_of_lookUp_ok hrun).mpr ⟨_, _, engine₃, disk₂,
        Template.leads_render.mpr ⟨_, s, hleads, rfl⟩, ?_, rfl⟩
      exact replies_append hreplies ⟨engine₃, disk₂, hlast, rfl, rfl⟩
    rw [hfails]
    -- without a view in between, the fault of the page is that of the last view, as it stands
    cases through with
    | nil =>
      refine ⟨⟨fun _ ↦ Nat.le_refl 1, fun _ ↦ rfl⟩, fun through' last' heq hne ↦ ?_⟩
      have hlength := congrArg List.length heq
      simp [hne] at hlength
    | cons second through =>
      rw [List.length_cons, RenderError.ofFault_buried]
      refine ⟨⟨fun hdirective ↦ ?_, fun hlength ↦ ?_⟩, fun through' last' heq _ ↦ ?_⟩
      · cases hdirective
      · simp at hlength
      · obtain ⟨rfl, hlast⟩ := List.append_inj' heq rfl
        cases hlast
        rfl

/-! ### Three views

The first one includes the second, and the second includes the third, in which an argument is
missing. -/

def nestedDisk : Disk where
  nodes := (["views".toList], .directory 1) ::
    [("home.jinja", "\x7b% include 'mid' %\x7d"), ("mid.jinja", "\x7b% include 'leaf' %\x7d"),
      ("leaf.jinja", "@wpquery")].map fun (file, text) ↦
        (["views".toList, file.toList], .file (encode text.toList) 1)
  clock := 1
  here := []

def nestedEngine : ViewEngine :=
  (ViewEngine.new (.ofString "/views") (.ofString "/out")
    ⟨Directive.Builtin.rules sanitizeFilter⟩ nestedDisk).1

/-- What is wrong with the third view. -/
def nestedError : DirectiveError := .invalidArguments "wpquery".toList .expressionMissing

/-- A template that does nothing but embed another one. -/
def including (name : Text) : Template := ⟨[.embed (.literal (.string name false)) false]⟩

/-- Whether an answer is such a template. -/
def isIncluding (name : Text) : Except Fault Template → Bool
  | .ok ⟨[.embed (.literal (.string other isSafe)) ignoreMissing]⟩ =>
    other == name && !isSafe && !ignoreMissing
  | _ => false

theorem eq_including {name : Text} {answer : Except Fault Template}
    (h : isIncluding name answer = true) : answer = .ok (including name) := by
  rw [isIncluding.eq_def] at h
  split at h
  · simp only [Bool.and_eq_true, beq_iff_eq, Bool.not_eq_true'] at h
    obtain ⟨⟨rfl, rfl⟩, rfl⟩ := h
    rfl
  · cases h

/-- What becomes of the engine when it looks for the first template. -/
def nestedFirst : (Except Fault Template × ViewEngine) × Disk :=
  ((ViewEngine.lookUp .none "home".toList).run nestedEngine).run nestedDisk

theorem nestedFirst_answer : nestedFirst.1.1 = .ok (including "mid".toList) :=
  eq_including (by decide +kernel)

/-- What becomes of the engine when it is then asked for the second one. -/
def nestedSecond : (Except Fault Template × ViewEngine) × Disk :=
  ((ViewEngine.template .none "mid".toList).run nestedFirst.1.2).run nestedFirst.2

theorem nestedSecond_answer : nestedSecond.1.1 = .ok (including "leaf".toList) :=
  eq_including (by decide +kernel)

theorem eq_of_answer (run : (Except Fault Template × ViewEngine) × Disk)
    {answer : Except Fault Template} (h : run.1.1 = answer) : run = ((answer, run.1.2), run.2) := by
  rw [← h]

theorem render_of_leadsToUnexpandable_nested :
    nestedEngine.LeadsToUnexpandable .none "home".toList [] nestedDisk nestedError
      ["mid".toList, "leaf".toList] ∧
    (((ViewEngine.render .none "home".toList []).run nestedEngine).run nestedDisk).1.1
      = .error (.template "home".toList
          (.within .badInclude (.unexpandable "leaf".toList nestedError))) := by
  have hthird : nestedSecond.1.2.Unexpandable .none "leaf".toList nestedError
      nestedSecond.2 := by
    refine ⟨Option.isNone_iff_eq_none.mp (by decide +kernel), .ofString "/views/leaf.jinja",
      .ofString "/out/leaf.jinja", 1, "@wpquery".toList, ?_⟩
    decide +kernel
  have hleads : nestedEngine.LeadsToUnexpandable .none "home".toList [] nestedDisk nestedError
      ["mid".toList, "leaf".toList] := by
    have hincludes : Template.Includes nestedEngine.extensions "leaf".toList Template.bodyLimit
        (including "mid".toList).body (.start (including "mid".toList) [])
        [("mid".toList, .ok (including "leaf".toList))] ["mid".toList] := by
      obtain ⟨fuel, hfuel⟩ : ∃ fuel, Template.bodyLimit = fuel + 2 := ⟨1048574, rfl⟩
      rw [hfuel]
      change Template.Includes _ _ _ _ _ ([] ++ ([] ++ (_, _) :: ([] ++ []))) _
      exact .through
        (Template.comesTo_embed_literal (fuel + 1) _ _ _ _) (.here _ _) (by decide)
        (.last (Template.comesTo_embed_literal fuel _ _ _ _) (.here _ _))
    change nestedEngine.LeadsToUnexpandable _ _ _ _ _ (["mid".toList] ++ ["leaf".toList])
    refine .behind (eq_of_answer nestedFirst nestedFirst_answer) hincludes ?_ hthird
    exact ⟨_, _, eq_of_answer nestedSecond nestedSecond_answer, rfl, rfl⟩
  exact ⟨hleads, (render_of_leadsToUnexpandable hleads).2 ["mid".toList] "leaf".toList rfl
    (List.cons_ne_nil _ _)⟩

/-- The first view is said to have failed, and the others to have a directive in them that cannot be
expanded. -/
theorem directive_nested :
    (["home", "mid", "leaf"].map fun name ↦
      (((ViewEngine.render .none name.toList []).run nestedEngine).run nestedDisk).1.1) =
    [.error (.template "home".toList
        (.within .badInclude (.unexpandable "leaf".toList nestedError))),
      .error (.directive "mid".toList nestedError),
      .error (.directive "leaf".toList nestedError)] := by
  decide +kernel

end CompiledViews
