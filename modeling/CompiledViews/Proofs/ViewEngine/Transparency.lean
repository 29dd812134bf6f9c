import CompiledViews.Proofs.Disk.Edit
import CompiledViews.Proofs.ViewEngine.Rendering
import Mathlib.Logic.Relation

/-!
# Memory does not show

A view engine answers as an engine without memory would, at every moment of every run: whatever has
been rendered, configured or invalidated, however views have been written, removed and made again
meanwhile, and whatever had been left in the directory of outputs before the engine began.

What this rests on is that no place is given the same date twice. A template is used again while its
source has the date noted, and an output file while it is newer than its source; so an edit has to
be dated by the clock, which is later than every date noted and every output written. The one thing
that goes wrong is a view that was dated ahead before the run: when another text is put in its place
at the very moment it was dated to, this goes unnoticed. That much is excluded. At such a moment the
view may still be removed, and anything may be put elsewhere.

Between a change of the capabilities and the next invalidation nothing is promised, and nothing is
asked.
-/

namespace CompiledViews

open Template (Extensions Fault)
open Disk

/-- Whether what stands at a location is dated ahead, to this moment. -/
def Disk.Ahead (disk : Disk) (l : Location) (time : Time) : Prop :=
  disk.clock < time ∧ (disk.node? l).map Node.modified = some time

instance (disk : Disk) (l : Location) (time : Time) : Decidable (disk.Ahead l time) :=
  inferInstanceAs (Decidable (_ ∧ _))

/-- An engine at work. -/
structure EngineState where
  engine : ViewEngine
  disk : Disk
  available : Capabilities
  /-- Whether the capabilities have changed since outputs were last declared to be out of date. -/
  pending : Bool

namespace EngineState

def after {α : Type} (s : EngineState) (action : EngineAction α) : EngineState :=
  { s with engine := ((action.run s.engine).run s.disk).1.2
           disk := ((action.run s.engine).run s.disk).2 }

def start (views outputs : Path) (registry : Directive.Registry) (available : Capabilities)
    (disk : Disk) : EngineState :=
  let begun := (ViewEngine.new views outputs registry).run disk
  ⟨begun.1, begun.2, available, false⟩

/-- What may happen to an engine at work. Nothing is put in a place at a moment that is taken
there. -/
inductive Step (taken : Location → Time → Prop) : EngineState → EngineState → Prop
  | render (s : EngineState) (name : Text) (data : ViewData) (h : s.pending = false) :
    Step taken s (s.after (ViewEngine.render s.available name data))
  | compiles (s : EngineState) (name : Text) (h : s.pending = false) :
    Step taken s (s.after (ViewEngine.compiles s.available name))
  | invalidate (s : EngineState) :
    Step taken s { s.after ViewEngine.invalidate with pending := false }
  | configure (s : EngineState) (f : Extensions → Extensions) :
    Step taken s { s with engine := s.engine.configure f }
  | switch (s : EngineState) (available : Capabilities) :
    Step taken s { s with available, pending := true }
  | edit (s : EngineState) (disk : Disk)
    (h : s.disk.Edited (s.engine.outputs.goal s.disk.here <+: ·)
      (s.engine.views.goal s.disk.here <+: ·) taken disk) :
    Step taken s { s with disk }

/-- What is true of an engine at work, whatever happens. -/
structure Sound (taken : Location → Time → Prop) (s : EngineState) : Prop where
  apart : s.engine.views.Apart s.engine.outputs s.disk.here
  /-- While no change of the capabilities is pending, all that is remembered may be used. -/
  faithful : s.pending = false →
    ∀ name, ViewEngine.Faithful s.available s.engine s.disk name
  /-- No output file is newer than the clock. -/
  written : ∀ l content time, s.engine.outputs.goal s.disk.here <+: l →
    s.disk.node? l = some (.file content time) → time ≤ s.disk.clock
  /-- Nothing that is still to be put in a view's place has the date of the view. -/
  dated : ∀ l node, s.engine.views.goal s.disk.here <+: l → s.disk.node? l = some node →
    node.modified ≤ s.disk.clock ∨ taken l node.modified
  /-- Nothing that is still to be put in a view's place has a date that was noted. -/
  noted : ∀ name source, s.engine.loaded.get? name = some source →
    source.modified ≤ s.disk.clock ∨ taken (source.path.goal s.disk.here) source.modified

end EngineState

namespace ViewEngine

variable {engine engine' : ViewEngine} {available : Capabilities} {name : Text}
  {disk disk' : Disk} {own watched : Location → Prop} {taken : Location → Time → Prop}

/-- What is remembered stays true under edits that leave outputs alone and are dated by the
clock. -/
theorem Faithful.of_edited (h : Faithful available engine disk name)
    (hedit : disk.Edited own watched taken disk')
    (hsource : ∀ source, engine.sourcePath? name = some source →
      own (source.goal disk.here) ∨ watched (source.goal disk.here))
    (houtput : ∀ output, engine.outputPath? name = some output → own (output.goal disk.here))
    (hwritten : ∀ output content time, engine.outputPath? name = some output →
      disk.node? (output.goal disk.here) = some (.file content time) → time ≤ disk.clock)
    (hnoted : ∀ source, engine.loaded.get? name = some source →
      source.modified ≤ disk.clock ∨ taken (source.path.goal disk.here) source.modified) :
    Faithful available engine disk' name := by
  -- a source that is not the old one has a date that nothing remembered can have
  have hold : ∀ source node, engine.sourcePath? name = some source →
      disk'.node? (source.goal disk.here) = some node →
        disk.node? (source.goal disk.here) = some node ∨
          disk.clock < node.modified ∧ ¬taken (source.goal disk.here) node.modified := by
    intro source node hpath hnode
    rcases hsource source hpath with hown | hwatched
    · exact .inl ((hedit.own _ hown).symm.trans hnode)
    · rcases hedit.watched _ hwatched with hkept | hnew
      · exact .inl (hkept.symm.trans hnode)
      · obtain ⟨hlater, -, huntaken⟩ := hnew node hnode
        exact .inr ⟨hlater, huntaken⟩
  refine ⟨fun t ht ↦ ?_,
    fun source output content written node hpath hout hfile hlater hnode hnewer ↦ ?_⟩
  · obtain ⟨source, time, hpath, hnote, hparsed⟩ := h.parsed t ht
    refine ⟨source, time, hpath, hnote, fun node hnode htime ↦ ?_⟩
    rw [hedit.here] at hnode
    rcases hold source node hpath hnode with hsame | ⟨hlater, huntaken⟩
    · exact hparsed node hsame htime
    · subst htime
      rcases hnoted _ hnote with hbefore | htaken
      · exact absurd hlater (Nat.not_lt_of_le hbefore)
      · exact absurd htaken huntaken
  · rw [hedit.here] at hfile hnode
    rw [hedit.own _ (houtput output hout)] at hfile
    rcases hold source node hpath hnode with hsame | ⟨hdate, -⟩
    · exact h.output source output content written node hpath hout hfile hlater hsame hnewer
    · have hbefore := hwritten output content written hout hfile
      exact absurd (Nat.lt_trans hdate hnewer) (Nat.not_lt_of_le hbefore)

end ViewEngine

namespace EngineState

open ViewEngine

variable {s s' : EngineState} {taken : Location → Time → Prop}

theorem Sound.of_loads (h : s.Sound taken) {engine : ViewEngine} {disk : Disk}
    (hloads : Loads s.available s.engine s.disk engine disk)
    (hfaithful : s.pending = false → ∀ name, Faithful s.available engine disk name) :
    Sound taken { s with engine, disk } where
  apart := hloads.apart h.apart
  faithful := hfaithful
  written := by
    intro l content time hl hfile
    rw [hloads.outputs, hloads.grows.here] at hl
    exact hloads.grows.date_le (h.written l content time hl) hfile
  dated := by
    intro l node hl hnode
    rw [hloads.grows.here, show engine.views = s.engine.views from
      congrArg PlainEngine.views hloads.plain] at hl
    rw [hloads.views h.apart hl] at hnode
    exact (h.dated l node hl hnode).imp_left fun hle ↦ Nat.le_trans hle hloads.grows.clock
  noted := by
    intro name source hsource
    change source.modified ≤ disk.clock ∨ taken (source.path.goal disk.here) source.modified
    rw [hloads.grows.here]
    rcases hloads.loaded name source hsource with hold | ⟨hpath, hmodified⟩
    · exact (h.noted name source hold).imp_left fun hle ↦ Nat.le_trans hle hloads.grows.clock
    · obtain ⟨node, hstat, htime⟩ := modified_eq_ok hmodified
      rw [← htime]
      have hbelow : s.engine.views.goal s.disk.here <+: source.path.goal s.disk.here := by
        rw [ViewName.goal_of_path? hpath]
        exact List.prefix_append _ _
      exact (h.dated _ node hbelow (stat_eq_ok hstat).2).imp_left fun hle ↦
        Nat.le_trans hle hloads.grows.clock

/-- After an invalidation every output is out of date, so there is nothing to be said of them. -/
theorem Sound.invalidate (h : s.Sound taken) :
    Sound taken { s.after ViewEngine.invalidate with pending := false } where
  apart := h.apart
  faithful _ _ := .of_expired rfl fun l content time hl hfile ↦
    Nat.le_succ_of_le (h.written l content time hl hfile)
  written l content time hl hfile := Nat.le_succ_of_le (h.written l content time hl hfile)
  dated l node hl hnode := (h.dated l node hl hnode).imp_left Nat.le_succ_of_le
  noted _ _ hsource := nomatch hsource

theorem Sound.configure (h : s.Sound taken) (f : Extensions → Extensions) :
    Sound taken { s with engine := s.engine.configure f } where
  apart := h.apart
  faithful hsettled name := ⟨fun _ ht ↦ (nomatch ht), (h.faithful hsettled name).output⟩
  written := h.written
  dated := h.dated
  noted _ _ hsource := nomatch hsource

theorem Sound.edit (h : s.Sound taken) {disk : Disk}
    (hedit : s.disk.Edited (s.engine.outputs.goal s.disk.here <+: ·)
      (s.engine.views.goal s.disk.here <+: ·) taken disk) :
    Sound taken { s with disk } where
  apart := by
    change s.engine.views.Apart s.engine.outputs disk.here
    rw [hedit.here]
    exact h.apart
  faithful := by
    intro hsettled name
    refine (h.faithful hsettled name).of_edited hedit ?_ ?_ ?_ (h.noted name)
    · intro source hsource
      rw [ViewName.goal_of_path? hsource]
      exact .inr (List.prefix_append _ _)
    · intro output houtput
      rw [ViewName.goal_of_path? houtput]
      exact List.prefix_append _ _
    · intro output content time houtput hfile
      refine h.written _ content time ?_ hfile
      rw [ViewName.goal_of_path? houtput]
      exact List.prefix_append _ _
  written := by
    intro l content time hl hfile
    change s.engine.outputs.goal disk.here <+: l at hl
    rw [hedit.here] at hl
    exact Nat.le_trans (h.written l content time hl ((hedit.own l hl).symm.trans hfile)) hedit.clock
  dated := by
    intro l node hl hnode
    change s.engine.views.goal disk.here <+: l at hl
    rw [hedit.here] at hl
    rcases hedit.watched l hl with hkept | hnew
    · exact (h.dated l node hl (hkept.symm.trans hnode)).imp_left fun hle ↦
        Nat.le_trans hle hedit.clock
    · exact .inl (hnew node hnode).2.1
  noted := by
    intro name source hsource
    change source.modified ≤ disk.clock ∨ taken (source.path.goal disk.here) source.modified
    rw [hedit.here]
    exact (h.noted name source hsource).imp_left fun hle ↦ Nat.le_trans hle hedit.clock

/-- Every step leaves an engine sound. -/
theorem Sound.step (h : s.Sound taken) (hstep : Step taken s s') : s'.Sound taken := by
  cases hstep with
  | render name data hsettled =>
    have hall : ∀ other, True → Faithful s.available s.engine s.disk other :=
      fun other _ ↦ h.faithful hsettled other
    obtain ⟨hloads, hfaithful, -⟩ := faithful_render hall h.apart name data rfl
    exact h.of_loads hloads fun _ other ↦ hfaithful other trivial
  | compiles name hsettled =>
    have hall : ∀ other, True → Faithful s.available s.engine s.disk other :=
      fun other _ ↦ h.faithful hsettled other
    obtain ⟨hloads, hfaithful, -⟩ := faithful_compiles hall h.apart name rfl
    exact h.of_loads hloads fun _ other ↦ hfaithful other trivial
  | invalidate => exact h.invalidate
  | configure f => exact h.configure f
  | switch available =>
    exact ⟨h.apart, fun hsettled ↦ (nomatch hsettled), h.written, h.dated, h.noted⟩
  | edit disk hedit => exact h.edit hedit

theorem Sound.run (h : s.Sound taken) (hrun : Relation.ReflTransGen (Step taken) s s') :
    s'.Sound taken := by
  induction hrun with
  | refl => exact h
  | tail _ hstep ih => exact ih.step hstep

/-- An engine that begins takes all outputs there are to be out of date. -/
theorem sound_start {views outputs : Path} {registry : Directive.Registry}
    {available : Capabilities} {disk : Disk} (hapart : views.Apart outputs disk.here)
    (hwritten : ∀ l content time, outputs.goal disk.here <+: l →
      disk.node? l = some (.file content time) → time ≤ disk.clock) :
    Sound disk.Ahead (start views outputs registry available disk) where
  apart := hapart
  faithful _ _ := .of_expired rfl fun l content time hl hfile ↦
    Nat.le_succ_of_le (hwritten l content time hl hfile)
  written l content time hl hfile := Nat.le_succ_of_le (hwritten l content time hl hfile)
  dated := by
    intro l node hl hnode
    rcases Nat.lt_or_ge disk.clock node.modified with hahead | hbefore
    · have hdate : (disk.node? l).map Node.modified = some node.modified := congrArg _ hnode
      exact .inr ⟨hahead, hdate⟩
    · exact .inl (Nat.le_succ_of_le hbefore)
  noted _ _ hsource := nomatch hsource

/-- Whether an engine answers from a disk what an engine without memory would. -/
def Transparent (s : EngineState) : Prop :=
  (∀ name data, (((ViewEngine.render s.available name data).run s.engine).run s.disk).1.1
    = s.engine.plain.render s.available name data s.disk) ∧
  ∀ name, (((ViewEngine.compiles s.available name).run s.engine).run s.disk).1.1
    = s.engine.plain.compiles s.available name s.disk

end EngineState

/-- **Transparency.** In every state of every run of an engine, what it answers is what an engine
without memory answers from the disk as it is. -/
theorem answers_eq_plain {views outputs : Path} {registry : Directive.Registry}
    {available : Capabilities} {disk : Disk} {s : EngineState}
    (hapart : views.Apart outputs disk.here)
    (hwritten : ∀ l content time, outputs.goal disk.here <+: l →
      disk.node? l = some (.file content time) → time ≤ disk.clock)
    (hrun : Relation.ReflTransGen (EngineState.Step disk.Ahead)
      (.start views outputs registry available disk) s)
    (hsettled : s.pending = false) : s.Transparent := by
  have hstart : (EngineState.start views outputs registry available disk).Sound disk.Ahead :=
    EngineState.sound_start hapart hwritten
  have hsound := hstart.run hrun
  have hfaithful : ∀ name, True → ViewEngine.Faithful s.available s.engine s.disk name :=
    fun name _ ↦ hsound.faithful hsettled name
  constructor
  · intro name data
    obtain ⟨-, -, hanswer⟩ := ViewEngine.faithful_render hfaithful hsound.apart name data rfl
    exact hanswer ⟨trivial, fun t _ ↦ Template.Rendering.within_of_forall (fun _ ↦ trivial) _ _⟩
  · intro name
    obtain ⟨-, -, hanswer⟩ := ViewEngine.faithful_compiles hfaithful hsound.apart name rfl
    exact hanswer trivial

/-! ### A view dated ahead

A view is dated to the moment 6 and has been rendered before. At that moment it may be removed, and
be written anew afterwards; but when it is written anew right then, this goes unnoticed. -/

/-- A disk with one view. -/
def oneViewDisk : Disk where
  nodes := [(["views".toList], .directory 1),
    (["views".toList, "home.jinja".toList], .file (encode "1".toList) 1)]
  clock := 1
  here := []

def aheadDisk : Disk :=
  oneViewDisk.put ["views".toList, "home.jinja".toList] (.file (encode "1".toList) 6)

/-- An engine for that view begins. -/
def oneViewEngine (disk : Disk) : EngineState :=
  .start (.ofString "/views") (.ofString "/out") .empty .none disk

def renderedOn (disk : Disk) : EngineState :=
  (oneViewEngine disk).after (ViewEngine.render .none "home".toList [])

def renderedOnce : EngineState := renderedOn oneViewDisk

/-- An engine at work after others have changed the disk. -/
def EngineState.changed (s : EngineState) (action : Action IoFault Unit) : EngineState :=
  { s with disk := (action.run.run s.disk).2 }

def removedThen : EngineState :=
  (renderedOn aheadDisk).changed (remove (.ofString "/views/home.jinja"))

def rewrittenLater : EngineState :=
  removedThen.changed (write (.ofString "/views/home.jinja") (encode "2".toList))

def rewrittenThen : EngineState :=
  (renderedOn aheadDisk).changed (write (.ofString "/views/home.jinja") (encode "2".toList))

theorem written_aheadDisk (l : Location) (content : ByteArray) (time : Time)
    (hl : (Path.ofString "/out").goal aheadDisk.here <+: l)
    (hfile : aheadDisk.node? l = some (.file content time)) : time ≤ aheadDisk.clock := by
  have hnone : ∀ entry ∈ aheadDisk.nodes,
      ¬(Path.ofString "/out").goal aheadDisk.here <+: entry.1 := by decide
  rcases mem_nodes_of_node? hfile with ⟨-, hroot⟩ | hmem
  · cases hroot
  · exact absurd hl (hnone _ hmem)

theorem step_renderedOn (taken : Location → Time → Prop) (disk : Disk) :
    EngineState.Step taken (oneViewEngine disk) (renderedOn disk) := .render _ _ _ rfl

theorem answers_eq_plain_rewrittenLater :
    (((ViewEngine.render .none "home".toList []).run rewrittenLater.engine).run
      rewrittenLater.disk).1.1.toOption = some "2".toList := by
  have hremoved : EngineState.Step aheadDisk.Ahead (renderedOn aheadDisk) removedThen := by
    apply EngineState.Step.edit
    apply edited_remove
    · intro l hl hbelow
      have hboth := List.prefix_or_prefix_of_prefix hl hbelow
      revert hboth
      decide +kernel
    · decide +kernel
    · decide +kernel
  have hwritten : EngineState.Step aheadDisk.Ahead removedThen rewrittenLater := by
    apply EngineState.Step.edit
    apply edited_write <;> decide +kernel
  have hrun : Relation.ReflTransGen (EngineState.Step aheadDisk.Ahead)
      (oneViewEngine aheadDisk) rewrittenLater :=
    ((Relation.ReflTransGen.single (step_renderedOn _ _)).tail hremoved).tail hwritten
  obtain ⟨hrender, -⟩ := answers_eq_plain (by decide) written_aheadDisk hrun rfl
  exact (congrArg Except.toOption (hrender _ _)).trans (by decide +kernel)

/-- What is put in a view's place at the very moment that the view was dated to goes unnoticed. -/
theorem not_transparent_rewrittenThen :
    ¬∀ (views outputs : Path) (registry : Directive.Registry) (available : Capabilities)
      (disk : Disk) (s : EngineState), views.Apart outputs disk.here →
      (∀ l content time, outputs.goal disk.here <+: l →
        disk.node? l = some (.file content time) → time ≤ disk.clock) →
      Relation.ReflTransGen (EngineState.Step fun _ _ ↦ False)
        (.start views outputs registry available disk) s →
      s.pending = false → s.Transparent := by
  intro h
  have hwritten : EngineState.Step (fun _ _ ↦ False) (renderedOn aheadDisk) rewrittenThen := by
    apply EngineState.Step.edit
    apply edited_write
    · decide +kernel
    · decide +kernel
    · exact not_false
    · exact not_false
  have hrun : Relation.ReflTransGen (EngineState.Step fun _ _ ↦ False)
      (oneViewEngine aheadDisk) rewrittenThen :=
    (Relation.ReflTransGen.single (step_renderedOn _ _)).tail hwritten
  obtain ⟨hrender, -⟩ := h _ _ _ _ _ _ (by decide) written_aheadDisk hrun rfl
  have hsame := congrArg Except.toOption (hrender "home".toList [])
  revert hsame
  decide +kernel

end CompiledViews
