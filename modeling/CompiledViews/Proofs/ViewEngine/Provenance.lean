import CompiledViews.Proofs.ViewEngine.Inclusion
import CompiledViews.Proofs.ViewEngine.Transparency

/-!
# Where parsed views come from

An engine keeps two tables, of the templates parsed and of the sources loaded. They are written at
different moments of a load and by different parts of the engine, and a load may fail between the
two; but only the second one tells when the first one is out of date. A template without an entry
among the sources would stay forever.

There is none. For every template that an engine holds, it holds an entry for the view's source too,
and there is a moment in the past at which the view was asked for, the source had the date of the
entry, and the text that was loaded is that of the template. Nothing is assumed of the files for
that: anybody may change and remove them, and date them in any way, and the directories of views and
of outputs may lie in one another.

One question for a template is the step that the invariant is proved for. A rendering is a tree of
such questions, so the invariant is carried along the way that the answers take through it, and from
there to a course of renderings and of everything else that may happen. Whether a rendering comes to
a page or fails at some depth makes no difference to that way: it is only shorter.
-/

namespace CompiledViews

open Template (Extensions Fault Rendering)
open Disk

namespace ViewEngine

variable {engine engine' : ViewEngine} {available : Capabilities} {name : Text}
  {disk disk' : Disk} {R R' : Text → Template → LoadedSource → Prop}

/-! ## The two tables -/

/-- Whether the view of every template has an entry among the sources, with its own path, and a
relation holds between the three. -/
def Traced (R : Text → Template → LoadedSource → Prop) (engine : ViewEngine) : Prop :=
  ∀ name t, engine.parsed.get? name = some t → ∃ source,
    engine.loaded.get? name = some source ∧ engine.sourcePath? name = some source.path ∧
      R name t source

/-- Whether the text that loading a view gives is that of a template, and the source is as noted. -/
structure Parses (available : Capabilities) (engine : ViewEngine) (disk : Disk) (name : Text)
    (t : Template) (source : LoadedSource) : Prop where
  path : engine.sourcePath? name = some source.path
  dated : disk.modified source.path = .ok source.modified
  text : ∃ text, (((load available name).run.run engine).run disk).1.1 = .ok (some text) ∧
    Template.parse text = .ok t

theorem traced_of_parsed (h : engine.parsed = []) : engine.Traced R := by
  intro name t ht
  rw [h] at ht
  cases ht

theorem Traced.mono (h : engine.Traced R)
    (hR : ∀ name t source, R name t source → R' name t source) : engine.Traced R' := by
  intro name t ht
  obtain ⟨source, hloaded, hpath, hsource⟩ := h name t ht
  exact ⟨source, hloaded, hpath, hR name t source hsource⟩

/-- All that loading does to an engine is that it takes note of the view's source. -/
theorem load_notes {found : Except Fault (Option Text)}
    (hrun : ((load available name).run.run engine).run disk = ((found, engine'), disk')) :
    engine' = engine ∨ ∃ source time, engine' = engine.noteSource name source time := by
  cases load_outcome hrun with
  | nameless | missing | unreadable => exact .inl rfl
  | reused | failed | expanded => exact .inr ⟨_, _, rfl⟩

theorem template_keeps {answer : Except Fault Template}
    (hrun : ((template available name).run engine).run disk = ((answer, engine'), disk')) :
    engine' = { engine with parsed := engine'.parsed, loaded := engine'.loaded } := by
  cases asked hrun with
  | remembered => rfl
  | refused hnone hload =>
    obtain rfl | ⟨source, time, rfl⟩ := load_notes hload <;> rfl
  | learned hnone hload =>
    obtain rfl | ⟨source, time, rfl⟩ := load_notes hload <;> rfl

/-- Loading a view of which there is no template leaves the others alone, even if it fails. -/
theorem Traced.load (h : engine.Traced R) (hnone : engine.parsed.get? name = none)
    {found : Except Fault (Option Text)}
    (hrun : ((ViewEngine.load available name).run.run engine).run disk
      = ((found, engine'), disk')) :
    engine'.Traced R := by
  obtain rfl | ⟨source, time, rfl⟩ := load_notes hrun
  · exact h
  · intro other t ht
    obtain ⟨source', hloaded, hother⟩ := h other t ht
    refine ⟨source', ?_, hother⟩
    rw [get?_loaded_noteSource_of_ne, hloaded]
    rintro rfl
    cases hnone.symm.trans ht

/-- A template is added only with an entry for the source that it has been made from. -/
theorem Traced.template (h : engine.Traced R) {answer : Except Fault Template}
    (hrun : ((ViewEngine.template available name).run engine).run disk = ((answer, engine'), disk'))
    (hparses : ∀ t source, engine.Parses available disk name t source → R name t source) :
    engine'.Traced R := by
  cases asked hrun with
  | remembered => exact h
  | refused hnone hload => exact h.load hnone hload
  | @learned text t engine₁ _ hnone hload hparse =>
    intro other t' ht'
    rw [Entries.get?_insert] at ht'
    split at ht'
    · next heq =>
      subst heq
      cases ht'
      obtain ⟨source, node, hsource, hstat, hloaded⟩ := loaded_of_load hload
      refine ⟨_, hloaded, ?_, hparses t _ ⟨hsource, ?_, text, ?_, hparse⟩⟩
      · obtain rfl | ⟨_, _, rfl⟩ := load_notes hload <;> exact hsource
      · rw [modified, hstat, Except.map]
      · rw [hload]
    · exact h.load hnone hload other t' ht'

theorem hasChanged_eq_false_iff {source : LoadedSource} :
    hasChanged source disk = false ↔ disk.modified source.path = .ok source.modified := by
  rw [hasChanged]
  cases disk.modified source.path with
  | error fault => simp
  | ok time => simp

end ViewEngine

namespace EngineState

open ViewEngine

variable {α : Type}

/-! ## Courses -/

def answer (s : EngineState) (action : EngineAction α) : α :=
  ((action.run s.engine).run s.disk).1.1

/-- The questions of a rendering, each with the state in which it is asked. -/
def questions : Rendering α → EngineState → List (Text × EngineState)
  | .done _, _ => []
  | .fetch name next, s =>
    (name, s) ::
      questions (next (s.answer (template s.available name))) (s.after (template s.available name))

/-- A course of what may happen to an engine at work, with the questions that have been asked in it.
The files may become any others, also between the questions of one call. -/
inductive Course (begun : EngineState) : List (Text × EngineState) → EngineState → Prop
  | begin : Course begun [] begun
  | render {past s} (h : Course begun past s) (name : Text) (data : ViewData) :
    Course begun
      (past ++ (s.after reloadChanged).questions (request s.engine.extensions name data))
      (s.after (ViewEngine.render s.available name data))
  | compiles {past s} (h : Course begun past s) (name : Text) :
    Course begun (past ++ [(name, s.after reloadChanged)])
      (s.after (ViewEngine.compiles s.available name))
  | invalidate {past s} (h : Course begun past s) :
    Course begun past { s.after ViewEngine.invalidate with pending := false }
  | configure {past s} (h : Course begun past s) (f : Extensions → Extensions) :
    Course begun past { s with engine := s.engine.configure f }
  | switch {past s} (h : Course begun past s) (available : Capabilities) :
    Course begun past { s with available, pending := true }
  | change {past s} (h : Course begun past s) (disk : Disk) : Course begun past { s with disk }
  /-- A call has begun. -/
  | reload {past s} (h : Course begun past s) : Course begun past (s.after reloadChanged)
  /-- A call has come to a question. -/
  | ask {past s} (h : Course begun past s) (name : Text) :
    Course begun (past ++ [(name, s)]) (s.after (template s.available name))
  /-- A call has come to its end. -/
  | called {past s} (h : Course begun past s) (calls : List Text) :
    Course begun past { s with engine := { s.engine with calls } }

/-- Whether a view was asked for in the past when its text was that of a template and its source was
as noted. -/
def Loaded (past : List (Text × EngineState)) (name : Text) (t : Template)
    (source : LoadedSource) : Prop :=
  ∃ moment, (name, moment) ∈ past ∧
    moment.engine.Parses moment.available moment.disk name t source

variable {begun s : EngineState} {past : List (Text × EngineState)} {name : Text}

theorem Loaded.append {t : Template} {source : LoadedSource} (h : Loaded past name t source)
    (later : List (Text × EngineState)) : Loaded (past ++ later) name t source := by
  obtain ⟨moment, hmem, hparses⟩ := h
  exact ⟨moment, List.mem_append_left _ hmem, hparses⟩

/-! ## Steps -/

theorem traced_ask (h : s.engine.Traced (Loaded past)) (name : Text) :
    (s.after (template s.available name)).engine.Traced (Loaded (past ++ [(name, s)])) :=
  (h.mono fun _ _ _ hloaded ↦ hloaded.append _).template rfl fun _ _ hparses ↦
    ⟨s, List.mem_append_right _ (List.mem_singleton_self _), hparses⟩

theorem traced_run (h : s.engine.Traced (Loaded past)) (rendering : Rendering α) :
    (s.after (rendering.run (template s.available))).engine.Traced
      (Loaded (past ++ s.questions rendering)) := by
  induction rendering generalizing s past with
  | done result =>
    rw [questions, List.append_nil]
    exact h
  | fetch name next ih =>
    have hrest := ih (s.answer (template s.available name)) (traced_ask h name)
    rw [List.append_assoc] at hrest
    exact hrest

/-- The check leaves an engine that knows nothing, or everything as it was, and then all sources
have the dates noted. -/
theorem after_reloadChanged (s : EngineState) :
    s.after reloadChanged = { s with engine := s.engine.forget } ∨
      s.after reloadChanged = s ∧ ∀ name source, s.engine.loaded.get? name = some source →
        s.disk.modified source.path = .ok source.modified := by
  rw [after]
  obtain hforgot | ⟨hkept, hunchanged⟩ := run_reloadChanged s.engine s.disk
  · rw [hforgot]
    exact .inl rfl
  · rw [hkept]
    exact .inr ⟨rfl, fun name source hsource ↦
      hasChanged_eq_false_iff.mp (hunchanged name source hsource)⟩

theorem traced_reloadChanged {R : Text → Template → LoadedSource → Prop}
    (h : s.engine.Traced R) : (s.after reloadChanged).engine.Traced R := by
  obtain hforgot | ⟨hkept, -⟩ := after_reloadChanged s
  · rw [hforgot]
    exact traced_of_parsed rfl
  · rwa [hkept]

theorem after_bind {β : Type} (s : EngineState) (action : EngineAction α)
    (f : α → EngineAction β) :
    s.after (action >>= f) = (s.after action).after (f (s.answer action)) := rfl

/-- A call to render is the check and the questions of the request, but for the functions that the
templates have called. -/
theorem after_render (s : EngineState) (name : Text) (data : ViewData) :
    ∃ calls, (s.after (render s.available name data)).engine
      = { ((s.after reloadChanged).after ((request s.engine.extensions name data).run
            (template s.available))).engine with calls } := by
  have hreload : (s.after reloadChanged).engine.extensions = s.engine.extensions := by
    obtain hforgot | ⟨hkept, -⟩ := after_reloadChanged s
    · rw [hforgot]
      rfl
    · rw [hkept]
  have hextensions : ((s.after reloadChanged).after (template s.available name)).engine.extensions
      = s.engine.extensions := (congrArg extensions (template_keeps rfl)).trans hreload
  rw [render, request, Rendering.run_fetch, after_bind, after_bind, after_bind]
  cases (s.after reloadChanged).answer (template s.available name) with
  | error fault => exact ⟨_, rfl⟩
  | ok t =>
    rw [pageOf, Rendering.run_bind, ← hextensions]
    exact ⟨_, rfl⟩

theorem Course.traced (h : Course begun past s) (hbegun : begun.engine.parsed = []) :
    s.engine.Traced (Loaded past) := by
  induction h with
  | begin => exact traced_of_parsed hbegun
  | @render past s _ name data ih =>
    have hrun := traced_run (traced_reloadChanged ih) (request s.engine.extensions name data)
    obtain ⟨calls, hrender⟩ := after_render s name data
    rw [hrender]
    exact hrun
  | compiles _ name ih => exact traced_ask (traced_reloadChanged ih) name
  | invalidate _ ih => exact traced_of_parsed rfl
  | configure _ f ih => exact traced_of_parsed rfl
  | switch _ available ih => exact ih
  | change _ disk ih => exact ih
  | reload _ ih => exact traced_reloadChanged ih
  | ask _ name ih => exact traced_ask ih name
  | called _ calls ih => exact ih

end EngineState

open EngineState (Course Loaded)

/-- **Provenance.** In every state that an engine can come to, whatever has become of the files,
each template that it holds comes with an entry for the view's own source, and with a question in
the past when that source had the date of the entry and the template was made from what was loaded.
So after the check with which every call begins, each template that is still held has a source with
the date noted. -/
theorem parsed_traced {views outputs : Path} {registry : Directive.Registry}
    {available : Capabilities} {disk : Disk} {past : List (Text × EngineState)} {s : EngineState}
    (h : Course (.start views outputs registry available disk) past s) :
    s.engine.Traced (Loaded past) ∧
    (s.after ViewEngine.reloadChanged).engine.Traced fun _ _ source ↦
      (s.after ViewEngine.reloadChanged).disk.modified source.path = .ok source.modified := by
  have htraced : s.engine.Traced (Loaded past) := h.traced rfl
  refine ⟨htraced, ?_⟩
  obtain hforgot | ⟨hkept, hdated⟩ := EngineState.after_reloadChanged s
  · rw [hforgot]
    exact ViewEngine.traced_of_parsed rfl
  · rw [hkept]
    intro name t ht
    obtain ⟨source, hloaded, hpath, -⟩ := htraced name t ht
    exact ⟨source, hloaded, hpath, hdated name source hloaded⟩

/-! ### A failed rendering

Of three views of which each includes the next, the last one cannot be loaded. Then somebody puts
another file in the place of an output file, and dates it back. -/

def nestedBegun : EngineState :=
  .start (.ofString "/views") (.ofString "/out") ⟨Directive.Builtin.rules sanitizeFilter⟩ .none
    nestedDisk

def failedOnce : EngineState := nestedBegun.after (ViewEngine.render .none "home".toList [])

/-- The engine after the output file of the second one has been replaced. -/
def failedAndChanged : EngineState :=
  { failedOnce with
    disk := failedOnce.disk.put ["out".toList, "mid.jinja".toList] (.file (encode "?".toList) 0) }

theorem course_failedAndChanged : ∃ past, Course nestedBegun past failedAndChanged := by
  have hfailed : Course nestedBegun _ failedOnce := .render .begin "home".toList []
  exact ⟨_, .change hfailed _⟩

theorem parsed_traced_failed :
    (∃ past t source, Course nestedBegun past failedAndChanged ∧
      failedAndChanged.engine.parsed.get? "mid".toList = some t ∧
      Loaded past "mid".toList t source) ∧
    ∃ source,
      (failedAndChanged.after ViewEngine.reloadChanged).engine.loaded.get? "mid".toList
        = some source ∧
      (failedAndChanged.after ViewEngine.reloadChanged).disk.modified source.path
        = .ok source.modified := by
  obtain ⟨past, hcourse⟩ := course_failedAndChanged
  obtain ⟨htraced, hchecked⟩ := parsed_traced hcourse
  have hparsed : (failedAndChanged.engine.parsed.get? "mid".toList).isSome = true := by
    decide +kernel
  have hheld : ((failedAndChanged.after ViewEngine.reloadChanged).engine.parsed.get?
      "mid".toList).isSome = true := by
    decide +kernel
  obtain ⟨t, ht⟩ := Option.isSome_iff_exists.mp hparsed
  obtain ⟨source, -, -, hloaded⟩ := htraced _ t ht
  obtain ⟨t', ht'⟩ := Option.isSome_iff_exists.mp hheld
  obtain ⟨source', hentry, -, hdated⟩ := hchecked _ t' ht'
  exact ⟨⟨past, t, source, hcourse, ht, hloaded⟩, source', hentry, hdated⟩

end CompiledViews
