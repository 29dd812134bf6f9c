import CompiledViews.Proofs.ViewEngine.Provenance

/-!
# Views with dates of their own

Files do not always come with the date at which they were put into place: a copy may keep the date
of its original, and that may be long ago. So whoever replaces the source of a view is free here to
date it as they like. What an engine makes of such a view is not always its new text.

The two tests of dates are not of one kind. Whether a loaded view has changed is a matter of
equality: any other date than the one noted makes the engine forget what it has parsed. Whether an
output file may be used again is a matter of order: it has to be newer than the source. A source
that is replaced by one with a date before the output file's is therefore found to be changed, and
then the text of the output file is taken again.

So the output file decides. If none is newer than the source and the last invalidation, every use of
the view is made from its new text; if one is, every use is made from that file, and it holds a text
that the view had at some moment of the run. This settles every view whose source does not have the
date noted, wherever on a page it is used.
-/

namespace CompiledViews

open Template (Extensions Fault Rendering)
open Disk

namespace ViewEngine

variable {engine engine' : ViewEngine} {available : Capabilities} {name view text : Text}
  {disk disk' : Disk}

/-! ## Templates and the dates noted for them -/

/-- Whether the source of every parsed view has been noted. -/
def Tracked (engine : ViewEngine) : Prop :=
  ∀ name t, engine.parsed.get? name = some t →
    ∃ source time, engine.sourcePath? name = some source ∧
      engine.loaded.get? name = some ⟨source, time⟩

/-- What a question for a template does to engine and disk, whatever is remembered. -/
theorem loads_template (hapart : engine.views.Apart engine.outputs disk.here)
    {answer : Except Fault Template}
    (hrun : ((template available name).run engine).run disk = ((answer, engine'), disk')) :
    Loads available engine disk engine' disk' := by
  have hready : Ready (fun _ ↦ False) available engine disk :=
    ⟨fun _ h ↦ h.elim, fun _ _ h ↦ h.elim⟩
  exact (hready.template hapart hrun).1

theorem loads_reloadChanged
    (hrun : (reloadChanged.run engine).run disk = (((), engine'), disk)) :
    Loads available engine disk engine' disk := by
  have hnone : ∀ name, False → Faithful available engine disk name := fun _ h ↦ h.elim
  exact (ready_of_reloadChanged hnone hrun).1

theorem tracked_iff : engine.Tracked ↔ engine.Traced fun _ _ _ ↦ True := by
  constructor
  · intro h name t ht
    obtain ⟨source, time, hpath, hnoted⟩ := h name t ht
    exact ⟨⟨source, time⟩, hnoted, hpath, trivial⟩
  · intro h name t ht
    obtain ⟨source, hnoted, hpath, -⟩ := h name t ht
    exact ⟨source.path, source.modified, hpath, hnoted⟩

theorem Tracked.template (h : engine.Tracked) {answer : Except Fault Template}
    (hrun : ((template available name).run engine).run disk = ((answer, engine'), disk')) :
    engine'.Tracked :=
  tracked_iff.mpr ((tracked_iff.mp h).template hrun fun _ _ _ ↦ trivial)

theorem tracked_of_parsed (h : engine.parsed = []) : engine.Tracked :=
  tracked_iff.mpr (traced_of_parsed h)

theorem Tracked.reloadChanged (h : engine.Tracked)
    (hrun : (reloadChanged.run engine).run disk = (((), engine'), disk)) : engine'.Tracked := by
  rcases run_reloadChanged engine disk with hforgot | ⟨hkept, -⟩
  · rw [hforgot] at hrun
    cases hrun
    exact tracked_of_parsed rfl
  · rw [hkept] at hrun
    cases hrun
    exact h

/-- Whether the source of a view has a date, and not the one that was noted when the view was
loaded, if it has been. -/
structure Replaced (engine : ViewEngine) (disk : Disk) (view : Text) (time : Time) : Prop where
  dated : ∃ source, engine.sourcePath? view = some source ∧ disk.modified source = .ok time
  noted : ∀ noted, engine.loaded.get? view = some noted → noted.modified ≠ time

/-- When an engine has looked for changes, it has no template of a view that was replaced. -/
theorem Replaced.parsed_eq_none {time : Time} (h : engine.Replaced disk view time)
    (htracked : engine.Tracked)
    (hrun : (reloadChanged.run engine).run disk = (((), engine'), disk)) :
    engine'.parsed.get? view = none := by
  rcases run_reloadChanged engine disk with hforgot | ⟨hkept, hunchanged⟩
  · rw [hforgot] at hrun
    cases hrun
    rfl
  · rw [hkept] at hrun
    cases hrun
    rw [Option.eq_none_iff_forall_not_mem]
    intro t ht
    obtain ⟨source, hsource, hdate⟩ := h.dated
    obtain ⟨source', noted, hsource', hnoted⟩ := htracked view t ht
    obtain rfl : source = source' := Option.some.inj (hsource.symm.trans hsource')
    have hsame := hunchanged view _ hnoted
    rw [hasChanged, hdate, bne_eq_false_iff_eq] at hsame
    exact h.noted _ hnoted hsame.symm

/-! ## Output files that stand for a view -/

theorem reusableOutput?_of_stat {output : Path} {modified written : Time}
    (hstat : disk.stat output = .ok (.file (encode text) written))
    (hnewer : max engine.invalidatedAt modified < written) :
    engine.reusableOutput? output modified disk = some text := by
  have hfresh : isExpired (max engine.invalidatedAt modified) written = false :=
    decide_eq_false (Nat.not_le.mpr hnewer)
  have hread : disk.readText output = .ok text := by
    rw [readText, Disk.read, hstat]
    exact Text.decode_encode text
  rw [reusableOutput?, Disk.modified, hstat]
  dsimp only [Except.map, Node.modified]
  rw [hfresh, hread]
  rfl

/-- Whether an engine takes the text of a view from the view's output file, whatever the source
says. -/
structure Reuses (engine : ViewEngine) (disk : Disk) (view text : Text) : Prop where
  output : ∃ source output time written, engine.sourcePath? view = some source ∧
    engine.outputPath? view = some output ∧ disk.modified source = .ok time ∧
    disk.stat output = .ok (.file (encode text) written) ∧ max engine.invalidatedAt time < written
  parsed : ∀ t, engine.parsed.get? view = some t → Template.parse text = .ok t

/-- Whether no output file of a view is newer than a date and than the last invalidation. -/
def OutputExpired (engine : ViewEngine) (disk : Disk) (view : Text) (time : Time) : Prop :=
  ∀ output content written, engine.outputPath? view = some output →
    disk.node? (output.goal disk.here) = some (.file content written) →
      written ≤ max engine.invalidatedAt time

/-- Whether a view has to be made from its source: it was replaced, and no output file is in the
way. -/
def Renewed (engine : ViewEngine) (disk : Disk) (view : Text) : Prop :=
  ∃ time, engine.Replaced disk view time ∧ engine.OutputExpired disk view time

/-- Whether a view was replaced by a source that its output file, with a certain text, is newer
than. -/
def Overtaken (engine : ViewEngine) (disk : Disk) (view text : Text) : Prop :=
  ∃ time output written, engine.Replaced disk view time ∧ engine.outputPath? view = some output ∧
    disk.stat output = .ok (.file (encode text) written) ∧ max engine.invalidatedAt time < written

/-- When an engine has looked for changes, nothing but the output file is left of a view that was
replaced. -/
theorem Overtaken.reuses (h : engine.Overtaken disk view text) (htracked : engine.Tracked)
    (hrun : (reloadChanged.run engine).run disk = (((), engine'), disk)) :
    Reuses engine' disk view text := by
  obtain ⟨time, output, written, hreplaced, houtput, hstat, hnewer⟩ := h
  obtain ⟨source, hsource, hmodified⟩ := hreplaced.dated
  have hloads : Loads .none engine disk engine' disk := loads_reloadChanged hrun
  refine ⟨⟨source, output, time, written, ?_, ?_, hmodified, hstat, ?_⟩, fun t ht ↦ ?_⟩
  · rwa [hloads.sourcePath?]
  · rwa [hloads.outputPath?]
  · rwa [hloads.invalidatedAt]
  · rw [hreplaced.parsed_eq_none htracked hrun] at ht
    cases ht

theorem stat_output_of_load {answer : Except Fault (Option Text)} {output : Path}
    {content : ByteArray} {written : Time} (hne : name ≠ view)
    (hrun : ((load available name).run.run engine).run disk = ((answer, engine'), disk'))
    (houtput : engine.outputPath? view = some output)
    (hstat : disk.stat output = .ok (.file content written)) :
    disk'.stat output = disk.stat output := by
  cases load_outcome hrun with
  | nameless => rfl
  | missing => rfl
  | unreadable => rfl
  | reused => rfl
  | failed => rfl
  | expanded source output' node expanded hsource houtput' =>
    refine (adds_writeOutput houtput' disk rfl).stat_file hstat ?_
    rintro _ ⟨hgoal, -⟩
    exact hne (ViewName.goal_injective houtput houtput' hgoal).symm

theorem Reuses.load (h : Reuses engine disk view text)
    (hapart : engine.views.Apart engine.outputs disk.here) {found : Except Fault (Option Text)}
    (hrun : ((load available name).run.run engine).run disk = ((found, engine'), disk')) :
    Reuses engine' disk' view text ∧ (name = view → found = .ok (some text)) := by
  obtain ⟨source, output, time, written, hsource, houtput, htime, hstat, hnewer⟩ := h.output
  obtain ⟨hloads, hparsed, -⟩ := loads_load hapart hrun
  by_cases heq : name = view
  · -- the output file is newer, so the source is not even read
    subst heq
    rw [run_load, hsource, houtput] at hrun
    simp only [htime, reusableOutput?_of_stat hstat hnewer] at hrun
    cases hrun
    exact ⟨⟨⟨source, output, time, written, hsource, houtput, htime, hstat, hnewer⟩, h.parsed⟩,
      fun _ ↦ rfl⟩
  · refine ⟨⟨⟨source, output, time, written, ?_, ?_, ?_, ?_, ?_⟩, ?_⟩, fun h ↦ absurd h heq⟩
    · rwa [hloads.sourcePath?]
    · rwa [hloads.outputPath?]
    · rwa [Disk.modified, hloads.stat view source hsource]
    · rwa [stat_output_of_load heq hrun houtput hstat]
    · rwa [hloads.invalidatedAt]
    · rw [hparsed]
      exact h.parsed

/-- A view is answered with the text of its output file, and that stays so. -/
theorem Reuses.template (h : Reuses engine disk view text)
    (hapart : engine.views.Apart engine.outputs disk.here) {answer : Except Fault Template}
    (hrun : ((template available name).run engine).run disk = ((answer, engine'), disk')) :
    Reuses engine' disk' view text ∧
      (name = view → answer = (Template.parse text).mapError .plain) := by
  cases asked hrun with
  | remembered t ht =>
    refine ⟨h, ?_⟩
    rintro rfl
    rw [h.parsed t ht]
    rfl
  | refused hnone hload =>
    obtain ⟨hreuses, hfound⟩ := h.load hapart hload
    refine ⟨hreuses, fun heq ↦ ?_⟩
    rw [hfound heq]
    rfl
  | @learned text' t engine₁ _ hnone hload hparse =>
    obtain ⟨hreuses, hfound⟩ := h.load hapart hload
    have hsame : name = view → Template.parse text = .ok t := fun heq ↦ by
      cases hfound heq
      exact hparse
    -- what has been parsed now is only kept for the view that was asked for
    refine ⟨⟨hreuses.output, fun t' ht' ↦ ?_⟩, fun heq ↦ by rw [hsame heq]; rfl⟩
    rw [Entries.get?_insert] at ht'
    split at ht'
    · next heq => rw [hsame heq.symm, Option.some.inj ht']
    · exact hreuses.parsed t' ht'

/-- Every question for a view that has to be made from its source, or that is made from its output
file, is answered accordingly. -/
theorem meets_replaced (hapart : engine.views.Apart engine.outputs disk.here) :
    Meets available
      (fun engine' disk' ↦ (Loads available engine disk engine' disk' ∧
        Ready (engine.Renewed disk) available engine' disk') ∧
          ∀ view text, engine.Overtaken disk view text → Reuses engine' disk' view text)
      fun view answer ↦
        (engine.Renewed disk view → answer = engine.plain.template available view disk) ∧
          ∀ text, engine.Overtaken disk view text →
            answer = (Template.parse text).mapError .plain := by
  rintro name engine₀ disk₀ ⟨hready, hreuses⟩ answer engine' disk' hrun
  obtain ⟨hready', hanswer⟩ := meets_ready _ hapart name engine₀ disk₀ hready _ _ _ hrun
  have hhere := hready.1.apart hapart
  exact ⟨⟨hready', fun view text h ↦ ((hreuses view text h).template hhere hrun).1⟩,
    hanswer, fun text h ↦ ((hreuses name text h).template hhere hrun).2 rfl⟩

end ViewEngine

namespace EngineState

open ViewEngine

variable {start s s' : EngineState} {view text : Text} {time : Time}

/-! ## Runs with edits of any date -/

/-- What may happen to an engine at work, when others date their files as they like; they leave the
output files alone. -/
inductive Move : EngineState → EngineState → Prop
  | render (s : EngineState) (name : Text) (data : ViewData) :
    Move s (s.after (ViewEngine.render s.available name data))
  | compiles (s : EngineState) (name : Text) :
    Move s (s.after (ViewEngine.compiles s.available name))
  | invalidate (s : EngineState) : Move s { s.after ViewEngine.invalidate with pending := false }
  | configure (s : EngineState) (f : Extensions → Extensions) :
    Move s { s with engine := s.engine.configure f }
  | switch (s : EngineState) (available : Capabilities) :
    Move s { s with available, pending := true }
  | edit (s : EngineState) (disk : Disk)
    (h : s.disk.Spares (s.engine.outputs.goal s.disk.here <+: ·) disk) : Move s { s with disk }

/-- Whether something was the case at some moment of a run. -/
def Once (start s : EngineState) (p : EngineState → Prop) : Prop :=
  ∃ moment, Relation.ReflTransGen Move start moment ∧ Relation.ReflTransGen Move moment s ∧ p moment

theorem Once.move {p : EngineState → Prop} (h : Once start s p) (hmove : Move s s') :
    Once start s' p := by
  obtain ⟨moment, hbefore, hafter, hp⟩ := h
  exact ⟨moment, hbefore, hafter.tail hmove, hp⟩

/-- Whether a text is what the source of a view expands to. -/
def Says (view text : Text) (s : EngineState) : Prop :=
  ∃ source node, s.engine.sourcePath? view = some source ∧
    s.disk.node? (source.goal s.disk.here) = some node ∧
    s.engine.plain.Expands s.available node text

/-- What is true of an engine in the course of a run, however files are dated. -/
structure Recorded (start s : EngineState) : Prop where
  apart : s.engine.views.Apart s.engine.outputs s.disk.here
  tracked : s.engine.Tracked
  invalidated : s.engine.invalidatedAt ≤ s.disk.clock
  /-- An output file that has been written since the last invalidation has a text that its view had
  in the course of the run. -/
  output : ∀ view output content written, s.engine.outputPath? view = some output →
    s.disk.node? (output.goal s.disk.here) = some (.file content written) →
    s.engine.invalidatedAt < written → ∃ text, content = encode text ∧ Once start s (Says view text)

/-- Whatever happens to the sources, the record stays as long as the outputs are left alone, or
declared to be out of date. -/
theorem Recorded.of_outputs (h : Recorded start s) (hmove : Move s s')
    (hviews : s'.engine.views = s.engine.views) (houtputs : s'.engine.outputs = s.engine.outputs)
    (hhere : s'.disk.here = s.disk.here) (htracked : s'.engine.Tracked)
    (hsince : s.engine.invalidatedAt ≤ s'.engine.invalidatedAt)
    (huntil : s'.engine.invalidatedAt ≤ s'.disk.clock)
    (hnode : ∀ l, s.engine.outputs.goal s.disk.here <+: l → s'.disk.node? l = s.disk.node? l) :
    Recorded start s' where
  apart := by
    rw [hviews, houtputs, hhere]
    exact h.apart
  tracked := htracked
  invalidated := huntil
  output := by
    intro view output content written houtput hfile hlater
    rw [outputPath?, houtputs] at houtput
    rw [hhere, hnode _ (ViewName.goal_of_path? houtput ▸ List.prefix_append _ _)] at hfile
    obtain ⟨text, hcontent, honce⟩ :=
      h.output view output content written houtput hfile (Nat.lt_of_le_of_lt hsince hlater)
    exact ⟨text, hcontent, honce.move hmove⟩

/-- What an engine writes while it loads views are texts that the views have at that moment. -/
theorem Recorded.of_loads (h : Recorded start s) (hrun : Relation.ReflTransGen Move start s)
    {engine : ViewEngine} {disk : Disk} (hmove : Move s { s with engine, disk })
    (hloads : Loads s.available s.engine s.disk engine disk) (htracked : engine.Tracked) :
    Recorded start { s with engine, disk } where
  apart := hloads.apart h.apart
  tracked := htracked
  invalidated := by
    rw [hloads.invalidatedAt]
    exact Nat.le_trans h.invalidated hloads.grows.clock
  output := by
    intro view output content written houtput hfile hlater
    rw [hloads.outputPath?] at houtput
    rw [hloads.grows.here] at hfile
    rw [hloads.invalidatedAt] at hlater
    -- an output file is as it was, or it has been written in this very move
    rcases hloads.grows.file_kept_or_written hfile with hkept | ⟨hwrote, -⟩
    · obtain ⟨text, hcontent, honce⟩ := h.output view output content written houtput hkept hlater
      exact ⟨text, hcontent, honce.move hmove⟩
    · obtain ⟨view', source, output', node, text, hsource, houtput', hgoal, hnode, htext, rfl⟩ :=
        hwrote
      obtain rfl := ViewName.goal_injective houtput houtput' hgoal
      exact ⟨text, rfl, s, hrun, .single hmove, source, node, hsource, hnode, htext⟩

/-- An engine that looks for templates has loaded views, and has noted what it has parsed. -/
theorem meets_tracked (hapart : s.engine.views.Apart s.engine.outputs s.disk.here) :
    Meets s.available
      (fun engine disk ↦ Loads s.available s.engine s.disk engine disk ∧ engine.Tracked)
      fun _ _ ↦ True := by
  rintro name engine₀ disk₀ ⟨hloads, htracked⟩ answer engine' disk' hrun
  have hhere := hloads.apart hapart
  exact ⟨⟨hloads.trans (loads_template hhere hrun) hapart, htracked.template hrun⟩, trivial⟩

/-- Every move is recorded. -/
theorem Recorded.move (h : Recorded start s) (hrun : Relation.ReflTransGen Move start s)
    (hmove : Move s s') : Recorded start s' := by
  have hreload : ∀ engine₀, (reloadChanged.run s.engine).run s.disk = (((), engine₀), s.disk) →
      Loads s.available s.engine s.disk engine₀ s.disk ∧ engine₀.Tracked := fun _ hreload ↦
    ⟨loads_reloadChanged hreload, h.tracked.reloadChanged hreload⟩
  -- the move itself is needed again, to carry the moments of the run so far beyond it
  have hmove' := hmove
  cases hmove with
  | render name data =>
    rcases hrender : ((ViewEngine.render s.available name data).run s.engine).run s.disk with
      ⟨⟨answer, engine'⟩, disk'⟩
    obtain ⟨⟨engine₁, calls, ⟨hloads, htracked⟩, rfl⟩, -⟩ := (meets_tracked h.apart).render
      (fun _ _ hstate ↦ congrArg PlainEngine.extensions hstate.1.plain) hreload name data hrender
    rw [after, hrender] at hmove' ⊢
    exact h.of_loads hrun hmove' (hloads.calls calls) htracked
  | compiles name =>
    obtain ⟨⟨hloads, htracked⟩, -⟩ := (meets_tracked h.apart).compiles hreload name rfl
    exact h.of_loads hrun hmove' hloads htracked
  | invalidate =>
    exact h.of_outputs hmove' rfl rfl rfl (tracked_of_parsed rfl)
      (Nat.le_succ_of_le h.invalidated) (Nat.le_refl _) fun _ _ ↦ rfl
  | configure f =>
    exact h.of_outputs hmove' rfl rfl rfl (tracked_of_parsed rfl) (Nat.le_refl _) h.invalidated
      fun _ _ ↦ rfl
  | switch available =>
    exact h.of_outputs hmove' rfl rfl rfl h.tracked (Nat.le_refl _) h.invalidated fun _ _ ↦ rfl
  | edit disk hedit =>
    exact h.of_outputs hmove' rfl rfl hedit.here h.tracked (Nat.le_refl _)
      (Nat.le_trans h.invalidated hedit.clock) hedit.own

theorem Recorded.run (h : Recorded start start) (hrun : Relation.ReflTransGen Move start s) :
    Recorded start s := by
  induction hrun with
  | refl => exact h
  | tail hbefore hmove ih => exact ih.move hbefore hmove

theorem recorded_start {views outputs : Path} {registry : Directive.Registry}
    {available : Capabilities} {disk : Disk} (hapart : views.Apart outputs disk.here)
    (hwritten : ∀ l content time, outputs.goal disk.here <+: l →
      disk.node? l = some (.file content time) → time ≤ disk.clock) :
    Recorded (.start views outputs registry available disk)
      (.start views outputs registry available disk) where
  apart := hapart
  tracked := tracked_of_parsed rfl
  invalidated := Nat.le_refl _
  output := by
    intro view output content written houtput hfile hlater
    have hbelow : outputs.goal disk.here <+: output.goal disk.here :=
      ViewName.goal_of_path? houtput ▸ List.prefix_append _ _
    exact absurd hlater
      (Nat.not_lt_of_le (Nat.le_succ_of_le (hwritten _ content written hbelow hfile)))

/-! ## What a page is made from -/

/-- What the template of a view is made from whose source has a certain date: the source as it is,
if no output file is newer than that date and the last invalidation; and otherwise the output file,
which has a text that the view had in the course of the run. -/
structure MadeFrom (start s : EngineState) (view : Text) (time : Time)
    (t : Except Fault Template) : Prop where
  source : s.engine.OutputExpired s.disk view time →
    t = s.engine.plain.template s.available view s.disk
  output : ∀ output content written, s.engine.outputPath? view = some output →
    s.disk.stat output = .ok (.file content written) →
    max s.engine.invalidatedAt time < written →
      ∃ text, content = encode text ∧ Once start s (Says view text) ∧
        t = (Template.parse text).mapError .plain

/-- Of a view that has to be made from its source, nothing is remembered that might be used. -/
theorem Recorded.faithful_of_renewed (h : Recorded start s)
    (hrenewed : s.engine.Renewed s.disk view) : Faithful s.available s.engine s.disk view := by
  obtain ⟨time, hreplaced, hexpired⟩ := hrenewed
  obtain ⟨source, hsource, hmodified⟩ := hreplaced.dated
  obtain ⟨node, hstat, rfl⟩ := modified_eq_ok hmodified
  have hnode := (stat_eq_ok hstat).2
  refine ⟨fun t ht ↦ ?_, fun source' output content written node' hsource' houtput hfile hlater
    hnode' hnewer ↦ ?_⟩
  · -- the source does not have the date noted, so nothing is asked of the template
    obtain ⟨source', noted, hsource', hnoted⟩ := h.tracked view t ht
    obtain rfl : source = source' := Option.some.inj (hsource.symm.trans hsource')
    refine ⟨source, noted, hsource, hnoted, fun node' hnode' hdate ↦ ?_⟩
    obtain rfl : node = node' := Option.some.inj (hnode.symm.trans hnode')
    exact absurd hdate.symm (hreplaced.noted _ hnoted)
  · obtain rfl : source = source' := Option.some.inj (hsource.symm.trans hsource')
    obtain rfl : node = node' := Option.some.inj (hnode.symm.trans hnode')
    exact absurd (Nat.max_lt.mpr ⟨hlater, hnewer⟩)
      (Nat.not_lt_of_le (hexpired output content written houtput hfile))

end EngineState

open EngineState in
/-- **Replaced views.** In every state of every run of an engine, however files have been dated, a
page is made so that every use of a view whose source does not have the date noted is made from that
source, if no output file of the view is newer than its date and the last invalidation; and from the
output file if one is. -/
theorem render_replaced {views outputs : Path} {registry : Directive.Registry}
    {available : Capabilities} {disk : Disk} {s : EngineState}
    (hapart : views.Apart outputs disk.here)
    (hwritten : ∀ l content time, outputs.goal disk.here <+: l →
      disk.node? l = some (.file content time) → time ≤ disk.clock)
    (hrun : Relation.ReflTransGen Move (.start views outputs registry available disk) s)
    (name : Text) (data : ViewData) :
    (ViewEngine.request s.engine.extensions name data).Answered
      (fun view t ↦ ∀ time, s.engine.Replaced s.disk view time →
        MadeFrom (.start views outputs registry available disk) s view time t)
      (((ViewEngine.render s.available name data).run s.engine).run s.disk).1.1 := by
  have hrecorded := (recorded_start hapart hwritten).run hrun
  obtain ⟨-, hanswer⟩ := (ViewEngine.meets_replaced hrecorded.apart).render
    (fun _ _ hstate ↦ congrArg PlainEngine.extensions hstate.1.1.plain)
    (fun _ hreload ↦ ⟨ViewEngine.ready_of_reloadChanged
      (fun _ hrenewed ↦ hrecorded.faithful_of_renewed hrenewed) hreload,
      fun _ _ hovertaken ↦ hovertaken.reuses hrecorded.tracked hreload⟩) name data rfl
  refine hanswer.mono fun view t ⟨hsource, houtput⟩ time hreplaced ↦
    ⟨fun hexpired ↦ hsource ⟨time, hreplaced, hexpired⟩,
      fun output content written hpath hstat hnewer ↦ ?_⟩
  obtain ⟨text, rfl, honce⟩ := hrecorded.output view output content written hpath
    (stat_eq_ok hstat).2 (Nat.max_lt.mp hnewer).1
  exact ⟨text, rfl, honce, houtput text ⟨time, output, written, hreplaced, hpath, hstat, hnewer⟩⟩

/-! ### A run

A view is rendered, and its source is replaced by one with a date of its own. -/

/-- The view that has been rendered once has a new text, and a date that somebody chose. -/
def renderedAndReplaced (time : Time) : EngineState :=
  { renderedOnce with
    disk := renderedOnce.disk.put ["views".toList, "home.jinja".toList]
      (.file (encode "2".toList) time) }

theorem reachable_renderedAndReplaced (time : Time) :
    Relation.ReflTransGen EngineState.Move
      (.start (.ofString "/views") (.ofString "/out") .empty .none oneViewDisk)
      (renderedAndReplaced time) :=
  (Relation.ReflTransGen.single (.render _ _ _)).tail
    (.edit _ _ (spares_put _ _ (by simp) (by decide +kernel)))

theorem noted_renderedAndReplaced (time : Time) :
    (renderedAndReplaced time).engine.loaded.get? "home".toList
      = some ⟨.ofString "/views/home.jinja", 1⟩ := by
  change renderedOnce.engine.loaded.get? "home".toList = _
  decide +kernel

/-- With a date that is ahead, the view has its new text. -/
theorem render_replaced_renderedAndReplaced :
    (((ViewEngine.render (renderedAndReplaced 9).available "home".toList []).run
      (renderedAndReplaced 9).engine).run (renderedAndReplaced 9).disk).1.1.toOption
        = some "2".toList := by
  have hwritten : ∀ l content time, (Path.ofString "/out").goal oneViewDisk.here <+: l →
      oneViewDisk.node? l = some (.file content time) → time ≤ oneViewDisk.clock := by
    intro l content time _ hfile
    exact modified_le_of_nodes (by decide) hfile
  have hsource : (renderedAndReplaced 9).engine.sourcePath? "home".toList
      = some (.ofString "/views/home.jinja") := by decide +kernel
  have hmodified : ((renderedAndReplaced 9).disk.modified
      (.ofString "/views/home.jinja")).toOption = some 9 := by decide +kernel
  have hreplaced : (renderedAndReplaced 9).engine.Replaced (renderedAndReplaced 9).disk
      "home".toList 9 := by
    refine ⟨⟨_, hsource, toOption_eq_some_iff.mp hmodified⟩, fun noted hnoted ↦ ?_⟩
    cases (noted_renderedAndReplaced 9).symm.trans hnoted
    decide
  have hdates : ∀ entry ∈ (renderedAndReplaced 9).disk.nodes, entry.2.modified ≤ 9 := by
    decide +kernel
  have hexpired : (renderedAndReplaced 9).engine.OutputExpired (renderedAndReplaced 9).disk
      "home".toList 9 := by
    intro output content written _ hfile
    obtain ⟨-, hroot⟩ | hmem := mem_nodes_of_node? hfile
    · cases hroot
    · exact Nat.le_trans (hdates _ hmem) (Nat.le_max_right _ _)
  have hstays : (renderedAndReplaced 9).engine.plain.StaysWithin (· = "home".toList)
      (renderedAndReplaced 9).available "home".toList [] (renderedAndReplaced 9).disk := by
    decide +kernel
  have hanswer :=
    render_replaced (by decide) hwritten (reachable_renderedAndReplaced 9) "home".toList []
  have hpage := ViewEngine.eq_plain_of_answered hanswer hstays fun view t hview hmade ↦ by
    subst hview
    exact (hmade 9 hreplaced).source hexpired
  exact (congrArg Except.toOption hpage).trans (by decide +kernel)

/-- With a date before that of the output file, the view keeps its old text. -/
theorem render_keepsOverwritten :
    Relation.ReflTransGen EngineState.Move
      (.start (.ofString "/views") (.ofString "/out") .empty .none oneViewDisk)
      (renderedAndReplaced 0) ∧
    (renderedAndReplaced 0).engine.loaded.get? "home".toList
      = some ⟨.ofString "/views/home.jinja", 1⟩ ∧
    ((renderedAndReplaced 0).disk.modified (.ofString "/views/home.jinja")).toOption = some 0 ∧
    ((renderedAndReplaced 0).disk.readText (.ofString "/views/home.jinja")).toOption
      = some "2".toList ∧
    (((ViewEngine.render .none "home".toList []).run (renderedAndReplaced 0).engine).run
      (renderedAndReplaced 0).disk).1.1.toOption = some "1".toList :=
  ⟨reachable_renderedAndReplaced 0, noted_renderedAndReplaced 0, by decide +kernel,
    by decide +kernel, by decide +kernel⟩

end CompiledViews
