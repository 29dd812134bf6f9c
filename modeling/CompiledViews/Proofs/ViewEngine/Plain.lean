import CompiledViews.Proofs.ViewName
import CompiledViews.ViewEngine.Basic

/-!
# Engines that remember nothing

A plain engine answers from what is on the disk, anew each time: it looks up, reads, expands and
parses every view that it needs, writes nothing and keeps nothing. It is what a view engine has to
agree with, whatever that one remembers.

What a plain engine answers depends on little of the disk: on what is seen at the ends of the ways
to sources. Dates do not count, and neither does anything outside the directory of views and the
way there.
-/

namespace CompiledViews

open Template (Extensions Fault Rendering)

/-- Whether a rendering, when it is answered thus, only asks for the given templates. -/
def Template.Rendering.Within {α : Type} (names : Text → Prop)
    (answers : Text → Except Fault Template) : Rendering α → Prop
  | done _ => True
  | fetch name next => names name ∧ (next (answers name)).Within names answers

theorem Template.Rendering.within_of_forall {α : Type} {names : Text → Prop}
    (h : ∀ name, names name) (answers : Text → Except Fault Template) (rendering : Rendering α) :
    rendering.Within names answers := by
  induction rendering with
  | done a => trivial
  | fetch name next ih => exact ⟨h name, ih _⟩

/-- The answers that a rendering does not ask for do not matter to it. -/
theorem Template.Rendering.Within.congr {α : Type} {names : Text → Prop}
    {answers answers' : Text → Except Fault Template} {rendering : Rendering α}
    (h : rendering.Within names answers)
    (hsame : ∀ name, names name → answers' name = answers name) :
    rendering.Within names answers' ∧
      rendering.run (m := Id) answers' = rendering.run (m := Id) answers := by
  induction rendering with
  | done a => exact ⟨trivial, rfl⟩
  | fetch name next ih =>
    obtain ⟨hname, hrest⟩ := h
    obtain ⟨hwithin, hrun⟩ := ih _ hrest
    rw [← hsame name hname] at hwithin hrun
    refine ⟨⟨hname, hwithin⟩, ?_⟩
    rw [Rendering.run_fetch, Rendering.run_fetch, ← hsame name hname]
    exact hrun

instance Template.Rendering.decidableWithin {α : Type} {names : Text → Prop} [DecidablePred names]
    {answers : Text → Except Fault Template} :
    (rendering : Rendering α) → Decidable (rendering.Within names answers)
  | done _ => .isTrue trivial
  | fetch name next =>
    have : Decidable ((next (answers name)).Within names answers) :=
      decidableWithin (next (answers name))
    instDecidableAnd

/-- What is asked of a result, if there is one, can be decided. -/
instance decidableForallOk {ε α : Type} {p : α → Prop} [DecidablePred p] :
    (result : Except ε α) → Decidable (∀ a, result = .ok a → p a)
  | .error _ => .isTrue (by simp)
  | .ok a => decidable_of_iff (p a) (by simp)

/-- What an engine is made of, apart from what it remembers and writes. -/
structure PlainEngine where
  views : Path
  registry : Directive.Registry
  extensions : Extensions

/-- A view engine without its memory. -/
def ViewEngine.plain (engine : ViewEngine) : PlainEngine :=
  ⟨engine.views, engine.registry, engine.extensions⟩

namespace PlainEngine

def expandSource (engine : PlainEngine) (available : Capabilities) (name : Text) (source : Path)
    (disk : Disk) : Except Fault Text :=
  match disk.readText source with
  | .error fault => .error (.unreadable source fault)
  | .ok text => (engine.registry.expand available text).mapError (.unexpandable name)

/-- The expanded text of a view; none if there is no such view. -/
def expanded (engine : PlainEngine) (available : Capabilities) (name : Text) (disk : Disk) :
    Except Fault (Option Text) :=
  match ViewName.path? engine.views name with
  | none => .ok none
  | some source =>
    match disk.stat source with
    | .error .notFound => .ok none
    | .error fault => .error (.unreadable source fault)
    | .ok _ => (engine.expandSource available name source disk).map some

def template (engine : PlainEngine) (available : Capabilities) (name : Text) (disk : Disk) :
    Except Fault Template :=
  match engine.expanded available name disk with
  | .error fault => .error fault
  | .ok none => .error (.plain .templateNotFound)
  | .ok (some text) => (Template.parse text).mapError .plain

def render (engine : PlainEngine) (available : Capabilities) (name : Text) (data : ViewData)
    (disk : Disk) : Except RenderError Text :=
  match engine.template available name disk with
  | .error fault => .error (.ofFault name fault)
  | .ok t =>
    let page := (t.render engine.extensions data).run (m := Id) fun other ↦
      engine.template available other disk
    page.result.mapError (.ofFault name)

def compiles (engine : PlainEngine) (available : Capabilities) (name : Text) (disk : Disk) : Bool :=
  (engine.template available name disk).isOk

/-- Whether a source that is at hand expands to a text. -/
def Expands (engine : PlainEngine) (available : Capabilities) (node : Node) (text : Text) : Prop :=
  ∃ content time plain, node = .file content time ∧ Disk.decode content = .ok plain ∧
    engine.registry.expand available plain = .ok text

/-- Whether a view can be rendered with data by asking for the given views only. -/
def StaysWithin (engine : PlainEngine) (names : Text → Prop)
    (available : Capabilities) (name : Text) (data : ViewData) (disk : Disk) : Prop :=
  names name ∧ ∀ t, engine.template available name disk = .ok t →
    (t.render engine.extensions data).Within names fun other ↦ engine.template available other disk

instance {engine : PlainEngine} {names : Text → Prop} [DecidablePred names]
    {available : Capabilities} {name : Text} {data : ViewData} {disk : Disk} :
    Decidable (engine.StaysWithin names available name data disk) := instDecidableAnd

variable {engine : PlainEngine} {available : Capabilities} {name : Text} {disk disk' : Disk}
  {source : Path} {node : Node} {text : Text}

theorem template_of_expanded (h : engine.expanded available name disk = .ok (some text)) :
    engine.template available name disk = (Template.parse text).mapError .plain := by
  rw [template, h]

theorem expandSource_eq_ok (hstat : disk.stat source = .ok node) :
    engine.expandSource available name source disk = .ok text ↔
      engine.Expands available node text := by
  rw [expandSource, Disk.readText, Disk.read, hstat]
  constructor
  · intro h
    split at h
    · cases h
    · next plain hplain =>
      cases node with
      | directory time => cases hplain
      | file content time =>
        exact ⟨content, time, plain, rfl, hplain, mapError_eq_ok_iff.mp h⟩
  · rintro ⟨content, time, plain, rfl, hplain, hexpand⟩
    simp only [Except.bind, hplain, hexpand]
    rfl

theorem expanded_of_nameless (hsource : ViewName.path? engine.views name = none) :
    engine.expanded available name disk = .ok none := by
  rw [expanded, hsource]

theorem expanded_of_missing (hsource : ViewName.path? engine.views name = some source)
    (hstat : disk.stat source = .error .notFound) :
    engine.expanded available name disk = .ok none := by
  rw [expanded, hsource]
  simp only [hstat]

theorem expanded_of_unreadable (hsource : ViewName.path? engine.views name = some source)
    {fault : IoFault} (hstat : disk.stat source = .error fault) (hfault : fault ≠ .notFound) :
    engine.expanded available name disk = .error (.unreadable source fault) := by
  rw [expanded, hsource]
  simp only [hstat]

theorem expanded_of_stat (hsource : ViewName.path? engine.views name = some source)
    (hstat : disk.stat source = .ok node) :
    engine.expanded available name disk
      = (engine.expandSource available name source disk).map some := by
  rw [expanded, hsource]
  simp only [hstat]

theorem expanded_of_expands (hsource : ViewName.path? engine.views name = some source)
    (hstat : disk.stat source = .ok node) (htext : engine.Expands available node text) :
    engine.expanded available name disk = .ok (some text) := by
  rw [expanded_of_stat hsource hstat, (expandSource_eq_ok hstat).mpr htext]
  rfl

/-! ## What the answers depend on -/

theorem expandSource_congr (h : disk'.readText source = disk.readText source) :
    engine.expandSource available name source disk'
      = engine.expandSource available name source disk := by
  rw [expandSource, expandSource, h]

/-- Disks on which all sources are found alike give a view the same template. -/
theorem template_congr (h : ∀ source, ViewName.path? engine.views name = some source →
      (disk'.stat source).map Node.sight = (disk.stat source).map Node.sight) :
    engine.template available name disk' = engine.template available name disk := by
  have hexpanded : engine.expanded available name disk' = engine.expanded available name disk := by
    rw [expanded, expanded]
    cases hsource : ViewName.path? engine.views name with
    | none => rfl
    | some source =>
      have hstat := h source hsource
      have hexpand : engine.expandSource available name source disk'
          = engine.expandSource available name source disk :=
        expandSource_congr (by rw [Disk.readText, Disk.readText, Disk.read_of_stat_map hstat])
      simp only [hexpand]
      rcases hold : disk.stat source with fault | node <;>
        rcases hnew : disk'.stat source with fault' | node' <;>
        simp_all [Except.map]
  rw [template, template, hexpanded]

/-- What is seen below the directory of views and on the way there settles every template. -/
theorem template_of_sight (hhere : disk'.here = disk.here)
    (h : ∀ l, l ∈ Disk.entered (engine.views.start disk.here) engine.views.names ∨
      engine.views.goal disk.here <+: l → disk'.sight l = disk.sight l) :
    engine.template available name disk' = engine.template available name disk := by
  refine template_congr fun source hsource ↦ Disk.stat_map_of_sight hhere fun l hl ↦ h l ?_
  rcases List.mem_cons.mp hl with rfl | hl
  · rw [ViewName.goal_of_path? hsource]
    exact .inr (List.prefix_append _ _)
  · exact ViewName.mem_entered_of_path? hsource hl

theorem render_congr {data : ViewData}
    (h : ∀ other, engine.template available other disk' = engine.template available other disk) :
    engine.render available name data disk' = engine.render available name data disk := by
  rw [render, render, h name, funext h]

theorem StaysWithin.congr {names : Text → Prop} {data : ViewData}
    (h : engine.StaysWithin names available name data disk)
    (hsame : ∀ other, names other →
      engine.template available other disk' = engine.template available other disk) :
    engine.StaysWithin names available name data disk' ∧
      engine.render available name data disk' = engine.render available name data disk := by
  obtain ⟨hname, hpage⟩ := h
  have htemplate := hsame name hname
  refine ⟨⟨hname, fun t ht ↦ ((hpage t (htemplate.symm.trans ht)).congr hsame).1⟩, ?_⟩
  rw [render, render, htemplate]
  cases ht : engine.template available name disk with
  | error fault => rfl
  | ok t =>
    dsimp only
    rw [((hpage t ht).congr hsame).2]

end PlainEngine

end CompiledViews
