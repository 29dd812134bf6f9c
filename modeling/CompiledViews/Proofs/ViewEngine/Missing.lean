import CompiledViews.Proofs.Template.Missing
import CompiledViews.Proofs.Template.Reading
import CompiledViews.Proofs.ViewEngine.Answers
import CompiledViews.Proofs.ViewEngine.Loading

/-!
# Views that are missing

An engine says of a view that it is missing if there is none of that name. It says so of a view that
is there too: when the view's own page asks for another one, to embed it or to extend it, and that
one is missing. Only the outermost fault tells, so a view that is missing inside of an embedded one
is reported as what it is, the cause of another fault.

What an engine adds to the disk while it loads views takes nothing away, and makes no file where it
finds none. So a view that is missing when it is asked for was missing when the request began.
-/

namespace CompiledViews

open Template (Extensions Fault Progress Rendering)
open Template.Rendering (Log)
open Disk

/-! ## What an engine says of a view -/

namespace RenderError

theorem ofFault_eq_notFound_iff {view name : Text} {fault : Fault} :
    ofFault view fault = .notFound name ↔ fault.kind = .templateNotFound ∧ name = view := by
  rw [ofFault.eq_def]
  split
  · next hkind => exact ⟨fun h ↦ ⟨hkind, (notFound.inj h).symm⟩, fun h ↦ congrArg _ h.2.symm⟩
  · next hkind =>
    refine ⟨fun h ↦ ?_, fun h ↦ absurd h.1 hkind⟩
    split at h <;> cases h

theorem ofFault_ne_notFound {fault : Fault} (h : fault.kind ≠ .templateNotFound)
    {view name : Text} : ofFault view fault ≠ .notFound name :=
  fun hnotFound ↦ h (ofFault_eq_notFound_iff.mp hnotFound).1

end RenderError

namespace ViewEngine

variable {engine engine' : ViewEngine} {available : Capabilities} {name : Text} {source : Path}
  {disk disk' : Disk} {fault : Fault}

/-- Whether there is no view of a name: a view cannot have it, or its source is missing. -/
def Lacks (engine : ViewEngine) (name : Text) (disk : Disk) : Prop :=
  ∀ source, engine.sourcePath? name = some source → disk.stat source = .error .notFound

theorem kind_of_expandSource {plain : PlainEngine}
    (h : plain.expandSource available name source disk = .error fault) :
    fault.kind ≠ .templateNotFound := by
  rw [PlainEngine.expandSource] at h
  split at h
  · cases h
    simp [Fault.kind]
  · obtain ⟨error, -, rfl⟩ := mapError_eq_error_iff.mp h
    simp [Fault.kind]

theorem kind_of_parse {text : Text}
    (h : (Template.parse text).mapError Fault.plain = .error fault) :
    fault.kind ≠ .templateNotFound := by
  obtain ⟨kind, hparse, rfl⟩ := mapError_eq_error_iff.mp h
  rcases Template.ofText_of_parse_error hparse with rfl | rfl <;> simp [Fault.kind]

theorem parsed_of_template
    (hrun : ((template available name).run engine).run disk = ((.error fault, engine'), disk')) :
    engine.parsed.get? name = none := by
  generalize hanswer : Except.error (α := Template) fault = answer at hrun
  cases asked hrun with
  | remembered t h => cases hanswer
  | refused hnone => exact hnone
  | learned hnone => exact hnone

/-- An engine says that a view is missing only if it is. -/
theorem lacks_of_template
    (hrun : ((template available name).run engine).run disk = ((.error fault, engine'), disk'))
    (hkind : fault.kind = .templateNotFound) : engine.Lacks name disk := by
  intro source hsource
  generalize hanswer : Except.error (α := Template) fault = answer at hrun
  cases asked hrun with
  | remembered t h => cases hanswer
  | learned hnone hload hparse => cases hanswer
  | refused hnone hload =>
    cases load_outcome hload with
    | nameless hnameless => cases hnameless.symm.trans hsource
    | missing source' hsource' hmissing =>
      rwa [Option.some.inj (hsource.symm.trans hsource')]
    | unreadable source' fault' hsource' hunreadable =>
      cases hanswer
      cases hkind
    | reused => exact absurd hkind (kind_of_parse hanswer.symm)
    | failed source' output node fault' _ _ _ _ hexpand =>
      cases hanswer
      exact absurd hkind (kind_of_expandSource hexpand)
    | expanded => exact absurd hkind (kind_of_parse hanswer.symm)

/-- Of a view that is missing, an engine says so, unless it remembers a template. -/
theorem template_of_lacks (hparsed : engine.parsed.get? name = none)
    (hlacks : engine.Lacks name disk) (available : Capabilities) :
    ((template available name).run engine).run disk
      = ((.error (.plain .templateNotFound), engine), disk) := by
  rcases hrun : ((template available name).run engine).run disk with ⟨⟨answer, engine'⟩, disk'⟩
  have hload : ((load available name).run.run engine).run disk = ((.ok none, engine), disk) := by
    rw [run_load]
    split
    · next source _ hsource _ => rw [modified, hlacks source hsource, Except.map]
    · rfl
  cases asked hrun with
  | remembered t h => cases hparsed.symm.trans h
  | refused hnone h =>
    cases hload.symm.trans h
    rfl
  | learned hnone h hparse => cases hload.symm.trans h

theorem kind_of_template (hsource : engine.sourcePath? name = some source) {node : Node}
    (hstat : disk.stat source = .ok node)
    (hrun : ((template available name).run engine).run disk = ((.error fault, engine'), disk')) :
    fault.kind ≠ .templateNotFound :=
  fun hkind ↦ nomatch hstat.symm.trans (lacks_of_template hrun hkind source hsource)

theorem template_of_nameless (hsource : engine.sourcePath? name = none)
    (hparsed : engine.parsed = []) (available : Capabilities) (disk : Disk) :
    ((template available name).run engine).run disk
      = ((.error (.plain .templateNotFound), engine), disk) := by
  refine template_of_lacks ?_ (fun source h ↦ nomatch hsource.symm.trans h) available
  rw [hparsed]
  rfl

/-- What every engine adds to the language never fails for want of a view. -/
theorem kind_of_raises_standard (h : Extensions.standard.Raises fault) :
    fault.kind ≠ .templateNotFound := by
  obtain ⟨name, operation, arguments, hfunction | hfilter, hfault⟩ := h
  · rw [Extensions.standard, Entries.get?, List.lookup_cons] at hfunction
    split at hfunction
    · cases hfunction
      cases arguments with
      | nil => cases hfault
      | cons => exact Template.Operation.refuse_ne (by decide) hfault
    · cases hfunction
  · rw [Extensions.standard, Entries.get?, List.lookup_cons] at hfilter
    split at hfilter
    · cases hfilter
      exact Template.Operation.needsNoView_ofOne (fun _ ↦ .ok _) arguments fault hfault
    · cases hfilter

/-! ## What an engine leaves missing -/

/-- Whether an engine has gone on: it is for the same views, and has only added to the disk. -/
structure Onward (engine : ViewEngine) (disk : Disk) (engine' : ViewEngine) (disk' : Disk) :
    Prop where
  views : engine'.views = engine.views
  extensions : engine'.extensions = engine.extensions
  grows : disk.Grows (fun _ ↦ True) (fun _ _ ↦ True) disk'

namespace Onward

theorem refl (engine : ViewEngine) (disk : Disk) : Onward engine disk engine disk :=
  ⟨rfl, rfl, .refl disk⟩

theorem trans {engine'' : ViewEngine} {disk'' : Disk} (h : Onward engine disk engine' disk')
    (h' : Onward engine' disk' engine'' disk'') : Onward engine disk engine'' disk'' :=
  ⟨h'.views.trans h.views, h'.extensions.trans h.extensions, h.grows.trans h'.grows⟩

/-- What is missing later was missing before. -/
theorem lacks (h : Onward engine disk engine' disk') (hlacks : engine'.Lacks name disk') :
    engine.Lacks name disk := by
  intro source hsource
  rw [sourcePath?, ← h.views] at hsource
  exact h.grows.stat_notFound (hlacks source hsource)

end Onward

theorem onward_load {found : Except Fault (Option Text)}
    (hrun : ((load available name).run.run engine).run disk = ((found, engine'), disk')) :
    Onward engine disk engine' disk' := by
  cases load_outcome hrun with
  | nameless => exact .refl ..
  | missing => exact .refl ..
  | unreadable => exact .refl ..
  | reused => exact ⟨rfl, rfl, .refl disk⟩
  | failed => exact ⟨rfl, rfl, .refl disk⟩
  | expanded source output node text _ houtput =>
    exact ⟨rfl, rfl, (adds_writeOutput houtput disk rfl).mono (fun _ _ ↦ trivial)
      fun _ _ _ ↦ trivial⟩

theorem onward_template {answer : Except Fault Template}
    (hrun : ((template available name).run engine).run disk = ((answer, engine'), disk')) :
    Onward engine disk engine' disk' := by
  cases asked hrun with
  | remembered => exact .refl ..
  | refused hnone hload => exact onward_load hload
  | learned hnone hload hparse =>
    obtain ⟨hviews, hextensions, hgrows⟩ := onward_load hload
    exact ⟨hviews, hextensions, hgrows⟩

/-! ## What an engine answers to a whole rendering -/

/-- Whether an engine gives the answers of a log one after the other, and what engine and disk are
like then. -/
def Replies (available : Capabilities) : Log → ViewEngine → Disk → ViewEngine → Disk → Prop
  | [], engine, disk, engine', disk' => engine' = engine ∧ disk' = disk
  | (name, answer) :: rest, engine, disk, engine', disk' =>
    ∃ engine₁ disk₁, ((template available name).run engine).run disk = ((answer, engine₁), disk₁) ∧
      Replies available rest engine₁ disk₁ engine' disk'

theorem replies_append {log after : Log} {engine₁ engine₂ : ViewEngine} {disk₁ disk₂ : Disk}
    (h : Replies available log engine disk engine₁ disk₁)
    (h' : Replies available after engine₁ disk₁ engine₂ disk₂) :
    Replies available (log ++ after) engine disk engine₂ disk₂ := by
  induction log generalizing engine disk with
  | nil =>
    obtain ⟨rfl, rfl⟩ := h
    exact h'
  | cons first rest ih =>
    obtain ⟨engine', disk', hrun, hrest⟩ := h
    exact ⟨engine', disk', hrun, ih hrest⟩

/-- To run a rendering is to find the log of it that the engine gives the answers of. -/
theorem run_template_iff {α : Type} {rendering : Rendering α} {a : α} :
    ((rendering.run (template available)).run engine).run disk = ((a, engine'), disk') ↔
      ∃ log, rendering.Leads log a ∧ Replies available log engine disk engine' disk' := by
  induction rendering generalizing engine disk with
  | done b =>
    constructor
    · intro hrun
      cases hrun
      exact ⟨[], ⟨rfl, rfl⟩, rfl, rfl⟩
    · rintro ⟨log, ⟨rfl, rfl⟩, rfl, rfl⟩
      rfl
  | fetch name next ih =>
    rw [Rendering.run_fetch, Stateful.run_bind]
    rcases hfirst : ((template available name).run engine).run disk with ⟨⟨answer, engine₁⟩, disk₁⟩
    dsimp only
    rw [ih]
    constructor
    · rintro ⟨log, hleads, hreplies⟩
      exact ⟨(name, answer) :: log, ⟨answer, log, rfl, hleads⟩, engine₁, disk₁, hfirst, hreplies⟩
    · rintro ⟨_, ⟨answer', log, rfl, hleads⟩, engine₂, disk₂, hfirst', hreplies⟩
      cases hfirst.symm.trans hfirst'
      exact ⟨log, hleads, hreplies⟩

/-- A view that an engine reports as missing was missing from the first. -/
theorem lacks_of_replies {before : Log}
    (h : Replies available (before ++ [(name, .error fault)]) engine disk engine' disk')
    (hkind : fault.kind = .templateNotFound) : engine.Lacks name disk := by
  induction before generalizing engine disk with
  | nil =>
    obtain ⟨engine₁, disk₁, hrun, -⟩ := h
    exact lacks_of_template hrun hkind
  | cons first rest ih =>
    obtain ⟨engine₁, disk₁, hrun, hrest⟩ := h
    exact (onward_template hrun).lacks (ih hrest)

/-! ## Requests -/

/-- Looks for changes, and then for the template of a view. -/
def lookUp (available : Capabilities) (name : Text) : EngineAction (Except Fault Template) := do
  reloadChanged
  template available name

theorem run_compiles (engine : ViewEngine) (available : Capabilities) (name : Text) (disk : Disk) :
    (((compiles available name).run engine).run disk).1.1
      = (((lookUp available name).run engine).run disk).1.1.isOk := rfl

theorem run_lookUp (engine : ViewEngine) (available : Capabilities) (name : Text) (disk : Disk) :
    ∃ engine₀, Onward engine disk engine₀ disk ∧
      ((lookUp available name).run engine).run disk
        = ((template available name).run engine₀).run disk := by
  rcases run_reloadChanged engine disk with hforgot | ⟨hkept, -⟩
  · refine ⟨engine.forget, ⟨rfl, rfl, .refl disk⟩, ?_⟩
    rw [lookUp, Stateful.run_bind, hforgot]
  · refine ⟨engine, .refl .., ?_⟩
    rw [lookUp, Stateful.run_bind, hkept]

theorem onward_lookUp {answer : Except Fault Template}
    (hrun : ((lookUp available name).run engine).run disk = ((answer, engine'), disk')) :
    Onward engine disk engine' disk' := by
  obtain ⟨engine₀, hreload, hlookUp⟩ := run_lookUp engine available name disk
  exact hreload.trans (onward_template (hlookUp.symm.trans hrun))

/-- Where the look-up of a view fails, it fails for want of it just if there is none. -/
theorem kind_of_lookUp
    (hrun : ((lookUp available name).run engine).run disk = ((.error fault, engine'), disk')) :
    fault.kind = .templateNotFound ↔ engine.Lacks name disk := by
  obtain ⟨engine₀, hreload, hlookUp⟩ := run_lookUp engine available name disk
  rw [hlookUp] at hrun
  constructor
  · intro hkind
    exact hreload.lacks (lacks_of_template hrun hkind)
  · intro hlacks
    have hlacks₀ : engine₀.Lacks name disk := by
      intro source hsource
      rw [sourcePath?, hreload.views] at hsource
      exact hlacks source hsource
    cases (template_of_lacks (parsed_of_template hrun) hlacks₀ available).symm.trans hrun
    rfl

theorem render_of_lookUp_error (data : ViewData)
    (hrun : ((lookUp available name).run engine).run disk = ((.error fault, engine'), disk')) :
    ((render available name data).run engine).run disk
      = ((.error (.ofFault name fault), engine'), disk') := by
  rw [lookUp, Stateful.run_bind] at hrun
  rw [render, Stateful.run_bind, Stateful.run_bind, hrun]
  rfl

/-- Where a view has a template, what is answered is read off the log of its rendering. -/
theorem render_of_lookUp_ok {t : Template} {data : ViewData} {result : Except RenderError Text}
    (hrun : ((lookUp available name).run engine).run disk = ((.ok t, engine'), disk')) :
    (((render available name data).run engine).run disk).1.1 = result ↔
      ∃ log page engine'' disk'', (t.render engine.extensions data).Leads log page ∧
        Replies available log engine' disk' engine'' disk'' ∧
        page.result.mapError (.ofFault name) = result := by
  rcases hpage : (((t.render engine'.extensions data).run (template available)).run engine').run
    disk' with ⟨⟨page, engine₂⟩, disk₂⟩
  have hrender : (((render available name data).run engine).run disk).1.1
      = page.result.mapError (.ofFault name) := by
    rw [lookUp, Stateful.run_bind] at hrun
    rw [render, Stateful.run_bind, Stateful.run_bind, hrun]
    dsimp only
    rw [Stateful.run_bind, Stateful.run_get, Stateful.run_bind, hpage]
    rfl
  rw [(onward_lookUp hrun).extensions] at hpage
  rw [hrender]
  constructor
  · rintro rfl
    obtain ⟨log, hleads, hreplies⟩ := run_template_iff.mp hpage
    exact ⟨log, page, engine₂, disk₂, hleads, hreplies, rfl⟩
  · rintro ⟨log, page', engine₃, disk₃, hleads, hreplies, rfl⟩
    cases hpage.symm.trans (run_template_iff.mpr ⟨log, hleads, hreplies⟩)
    rfl

/-- How a page breaks off for want of a view although its own view is there: with the template of
that view, the questions and answers up to then, the fault, and how far it had come. -/
structure BreaksOff (engine : ViewEngine) (available : Capabilities) (name : Text)
    (data : ViewData) (disk : Disk) (t : Template) (log : Log) (fault : Fault) (s : Progress) :
    Prop where
  kind : fault.kind = .templateNotFound
  leads : (t.rendered engine.extensions data).Leads log (.error fault, s)
  /-- The answers are the engine's own. -/
  replies : ∃ engine₁ disk₁ engine₂ disk₂,
    ((lookUp available name).run engine).run disk = ((.ok t, engine₁), disk₁) ∧
      Replies available log engine₁ disk₁ engine₂ disk₂
  /-- What is missing is not asked for from inside of an embedded view. -/
  outside : s.outerDepth = 0
  /-- The view asked for last is missing, unless a function or a filter of the host says so. -/
  missing : engine.extensions.Raises fault ∨
    ∃ before other reason, log = before ++ [(other, .error reason)] ∧ engine.Lacks other disk

end ViewEngine

open ViewEngine in
/-- **Missing views.** An engine answers that there is no view of the name asked for in two cases.
If the view cannot be loaded, it is when there is none; and if it can be, it is when its page breaks
off for want of another view. -/
theorem render_eq_notFound_iff (engine : ViewEngine) (available : Capabilities) (name view : Text)
    (data : ViewData) (disk : Disk) :
    ((((compiles available name).run engine).run disk).1.1 = false →
      ((((render available name data).run engine).run disk).1.1 = .error (.notFound view) ↔
        view = name ∧ engine.Lacks name disk)) ∧
    ((((compiles available name).run engine).run disk).1.1 = true →
      ((((render available name data).run engine).run disk).1.1 = .error (.notFound view) ↔
        view = name ∧
          ∃ t log fault s, BreaksOff engine available name data disk t log fault s)) := by
  rw [run_compiles]
  rcases hrun : ((lookUp available name).run engine).run disk with ⟨⟨fault | t, engine₁⟩, disk₁⟩
  · refine ⟨fun _ ↦ ?_, nofun⟩
    rw [render_of_lookUp_error data hrun, ← kind_of_lookUp hrun, Except.error.injEq,
      RenderError.ofFault_eq_notFound_iff, and_comm]
  · refine ⟨nofun, fun _ ↦ ?_⟩
    rw [render_of_lookUp_ok hrun]
    constructor
    · rintro ⟨log, page, engine₂, disk₂, hleads, hreplies, hresult⟩
      obtain ⟨result, s, hrendered, rfl⟩ := Template.leads_render.mp hleads
      obtain ⟨fault, hfault, hnotFound⟩ := mapError_eq_error_iff.mp hresult
      obtain ⟨hkind, hview⟩ := RenderError.ofFault_eq_notFound_iff.mp hnotFound
      obtain rfl := map_eq_error_iff.mp hfault
      obtain ⟨houtside, hblame⟩ := Template.endsMissing_of_rendered hrendered hkind
      refine ⟨hview, t, log, fault, s, hkind, hrendered, ⟨_, _, _, _, hrun, hreplies⟩, houtside, ?_⟩
      refine hblame.imp_right ?_
      -- the answers are the engine's own, so what they say to be missing was missing from the first
      rintro ⟨before, other, reason, rfl, hreason⟩
      exact ⟨before, other, reason, rfl,
        (onward_lookUp hrun).lacks (lacks_of_replies hreplies hreason)⟩
    · rintro ⟨rfl, t', log, fault, s, hbreaks⟩
      obtain ⟨engine₂, disk₂, engine₃, disk₃, hrun', hreplies⟩ := hbreaks.replies
      cases hrun.symm.trans hrun'
      refine ⟨log, _, engine₃, disk₃, Template.leads_render.mpr ⟨_, s, hbreaks.leads, rfl⟩,
        hreplies, ?_⟩
      exact congrArg Except.error (RenderError.ofFault_eq_notFound_iff.mpr ⟨hbreaks.kind, rfl⟩)

/-! ### Views that ask for one that is missing

One view embeds a view that is missing, one extends it, and one embeds the first of these. -/

def danglingDisk : Disk where
  nodes := (["views".toList], .directory 1) ::
    [("home.jinja", "\x7b% include 'gone' %\x7d"), ("child.jinja", "\x7b% extends 'gone' %\x7d"),
      ("page.jinja", "\x7b% include 'home' %\x7d")].map fun (file, text) ↦
        (["views".toList, file.toList], .file (encode text.toList) 1)
  clock := 1
  here := []

def danglingEngine : ViewEngine :=
  (ViewEngine.new (.ofString "/views") (.ofString "/out") .empty danglingDisk).1

theorem render_eq_notFound_iff_dangling :
    danglingEngine.Lacks "gone".toList danglingDisk ∧
    ∃ t before other reason fault s, danglingEngine.BreaksOff .none "home".toList [] danglingDisk t
      (before ++ [(other, .error reason)]) fault s ∧ danglingEngine.Lacks other danglingDisk := by
  have hgone : (((ViewEngine.render .none "gone".toList []).run danglingEngine).run
      danglingDisk).1.1 = .error (.notFound "gone".toList) := by decide +kernel
  have hhome : (((ViewEngine.render .none "home".toList []).run danglingEngine).run
      danglingDisk).1.1 = .error (.notFound "home".toList) := by decide +kernel
  obtain ⟨-, hlacks⟩ :=
    ((render_eq_notFound_iff danglingEngine .none "gone".toList _ [] danglingDisk).1
      (by decide +kernel)).mp hgone
  obtain ⟨-, t, log, fault, s, hbreaks⟩ :=
    ((render_eq_notFound_iff danglingEngine .none "home".toList _ [] danglingDisk).2
      (by decide +kernel)).mp hhome
  refine ⟨hlacks, ?_⟩
  rcases hbreaks.missing with hraises | ⟨before, other, reason, rfl, hother⟩
  · exact absurd hbreaks.kind (ViewEngine.kind_of_raises_standard hraises)
  · exact ⟨t, before, other, reason, fault, s, hbreaks, hother⟩

/-- The views are there, and two of them are said to be missing. -/
theorem notFound_dangling :
    (["home", "child", "page"].map fun name ↦
      (((ViewEngine.compiles .none name.toList).run danglingEngine).run danglingDisk).1.1)
        = [true, true, true] ∧
    (((ViewEngine.render .none "home".toList []).run danglingEngine).run danglingDisk).1.1
      = .error (.notFound "home".toList) ∧
    (((ViewEngine.render .none "child".toList []).run danglingEngine).run danglingDisk).1.1
      = .error (.notFound "child".toList) ∧
    (((ViewEngine.render .none "page".toList []).run danglingEngine).run danglingDisk).1.1
      = .error (.template "page".toList (.within .badInclude (.plain .templateNotFound))) := by
  decide +kernel

end CompiledViews
