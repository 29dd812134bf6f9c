import CompiledViews.Proofs.ViewEngine.Loading

/-!
# What an engine may remember

An engine remembers the templates it has parsed and, in its output files, the texts it has expanded.
Both are kept with a date that tells when they may be used. The invariant says of one view what
these dates are worth: whenever the engine takes what it remembers, it has what it would get from
the source as it is now.

It is stated per view, because edits may spoil what is remembered of one view and not of another;
and about nodes rather than paths, because the ways to them may come and go.
-/

namespace CompiledViews.ViewEngine

open Template (Extensions Fault)
open Disk

/-- Whether what an engine remembers of a view is true whenever the engine takes it to be. -/
structure Faithful (available : Capabilities) (engine : ViewEngine) (disk : Disk) (name : Text) :
    Prop where
  /-- A parsed template is that of the source, as long as that has the date noted. -/
  parsed : ∀ t, engine.parsed.get? name = some t → ∃ source time,
    engine.sourcePath? name = some source ∧ engine.loaded.get? name = some ⟨source, time⟩ ∧
    ∀ node, disk.node? (source.goal disk.here) = some node → node.modified = time →
      ∃ text, engine.plain.Expands available node text ∧ Template.parse text = .ok t
  /-- An output file holds the expanded text of the source, as long as it is newer than that and
  than the last invalidation. -/
  output : ∀ source output content written node, engine.sourcePath? name = some source →
    engine.outputPath? name = some output →
    disk.node? (output.goal disk.here) = some (.file content written) →
    engine.invalidatedAt < written → disk.node? (source.goal disk.here) = some node →
    node.modified < written →
      ∃ text, engine.plain.Expands available node text ∧ content = encode text

/-- Whether an engine can render the given views right away: what it remembers is true, and the
templates that it has parsed are up to date. -/
structure Ready (names : Text → Prop) (available : Capabilities) (engine : ViewEngine)
    (disk : Disk) : Prop where
  faithful : ∀ name, names name → Faithful available engine disk name
  current : ∀ name t, names name → engine.parsed.get? name = some t →
    engine.plain.template available name disk = .ok t

variable {engine engine' : ViewEngine} {available : Capabilities} {name other : Text}
  {disk disk' : Disk} {names : Text → Prop}

/-- An engine without templates, whose outputs are all out of date, remembers nothing false. -/
theorem Faithful.of_expired (hparsed : engine.parsed = [])
    (hexpired : ∀ l content time, engine.outputs.goal disk.here <+: l →
      disk.node? l = some (.file content time) → time ≤ engine.invalidatedAt) :
    Faithful available engine disk name where
  parsed := by
    intro t ht
    rw [hparsed] at ht
    cases ht
  output := by
    intro source output content written node _ houtput hfile hlater
    have hbelow : engine.outputs.goal disk.here <+: output.goal disk.here := by
      rw [ViewName.goal_of_path? houtput]
      exact List.prefix_append _ _
    exact absurd hlater (Nat.not_lt_of_le (hexpired _ content written hbelow hfile))

/-- What is remembered of a view stays true as long as its two files are left alone. -/
theorem Faithful.of_kept (h : Faithful available engine disk name) (hhere : disk'.here = disk.here)
    (hsource : ∀ source, engine.sourcePath? name = some source →
      disk'.node? (source.goal disk.here) = disk.node? (source.goal disk.here))
    (houtput : ∀ output, engine.outputPath? name = some output →
      disk'.node? (output.goal disk.here) = disk.node? (output.goal disk.here)) :
    Faithful available engine disk' name where
  parsed := by
    intro t ht
    obtain ⟨source, time, hpath, hnoted, hnode⟩ := h.parsed t ht
    refine ⟨source, time, hpath, hnoted, ?_⟩
    rw [hhere, hsource source hpath]
    exact hnode
  output := by
    intro source output content written node hpath hout hfile hlater hnode
    rw [hhere, houtput output hout] at hfile
    rw [hhere, hsource source hpath] at hnode
    exact h.output source output content written node hpath hout hfile hlater hnode

/-- Loading leaves what is remembered of a view true, provided it adds nothing to it. -/
theorem Faithful.of_loads (h : Faithful available engine disk name)
    (hloads : Loads available engine disk engine' disk')
    (hapart : engine.views.Apart engine.outputs disk.here)
    (hparsed : ∀ t, engine'.parsed.get? name = some t → engine.parsed.get? name = some t ∧
      engine'.loaded.get? name = engine.loaded.get? name) :
    Faithful available engine' disk' name where
  parsed := by
    intro t ht
    obtain ⟨hold, hloaded⟩ := hparsed t ht
    obtain ⟨source, time, hsource, hnoted, hnode⟩ := h.parsed t hold
    refine ⟨source, time, by rwa [hloads.sourcePath?], by rwa [hloaded], ?_⟩
    rw [hloads.grows.here, hloads.source hapart hsource, hloads.plain]
    exact hnode
  output := by
    intro source output content written node hsource houtput hfile hwritten hnode hnewer
    rw [hloads.sourcePath?] at hsource
    rw [hloads.outputPath?] at houtput
    rw [hloads.grows.here] at hfile hnode
    rw [hloads.source hapart hsource] at hnode
    rw [hloads.invalidatedAt] at hwritten
    rw [hloads.plain]
    rcases hloads.grows.file_kept_or_written hfile with hkept | ⟨hwrote, -⟩
    · exact h.output source output content written node hsource houtput hkept hwritten hnode hnewer
    · -- the location tells which view was written, so it is this one
      obtain ⟨other, source', output', node', text, hsource', houtput', hgoal, hnode', htext,
        rfl⟩ := hwrote
      obtain rfl := ViewName.goal_injective houtput houtput' hgoal
      obtain rfl : source = source' := Option.some.inj (hsource.symm.trans hsource')
      obtain rfl : node = node' := Option.some.inj (hnode.symm.trans hnode')
      exact ⟨text, htext, rfl⟩

/-- Loading a view gives its expanded text, whether that was remembered or not. -/
theorem Faithful.load_eq (h : Faithful available engine disk name) :
    (((load available name).run.run engine).run disk).1.1
      = engine.plain.expanded available name disk := by
  rcases hrun : ((load available name).run.run engine).run disk with ⟨⟨found, engine'⟩, disk'⟩
  have hplain : ViewName.path? engine.plain.views name = engine.sourcePath? name := rfl
  cases load_outcome hrun with
  | nameless hsource => exact (PlainEngine.expanded_of_nameless (hplain.trans hsource)).symm
  | missing source hsource hstat =>
    exact (PlainEngine.expanded_of_missing (hplain.trans hsource) hstat).symm
  | unreadable source fault hsource hstat hfault =>
    exact (PlainEngine.expanded_of_unreadable (hplain.trans hsource) hstat hfault).symm
  | reused source output node text hsource houtput hstat hreuse =>
    -- what stands in the output file is what expanding the source gives
    obtain ⟨content, written, hfile, hinvalidated, hnewer, hdecode⟩ :=
      reusableOutput?_eq_some hreuse
    obtain ⟨text', htext, rfl⟩ := h.output source output content written node hsource houtput
      hfile hinvalidated (stat_eq_ok hstat).2 hnewer
    rw [Text.decode_encode] at hdecode
    cases hdecode
    rw [PlainEngine.expanded_of_stat (hplain.trans hsource) hstat,
      (PlainEngine.expandSource_eq_ok hstat).mpr htext, Except.map]
  | failed source output node fault hsource houtput hstat hnone hexpand =>
    rw [PlainEngine.expanded_of_stat (hplain.trans hsource) hstat, hexpand, Except.map]
  | expanded source output node text hsource houtput hstat hnone hexpand =>
    rw [PlainEngine.expanded_of_stat (hplain.trans hsource) hstat, hexpand, Except.map]

theorem loaded_of_load {text : Text}
    (hrun : ((load available name).run.run engine).run disk = ((.ok (some text), engine'), disk')) :
    ∃ source node, engine.sourcePath? name = some source ∧ disk.stat source = .ok node ∧
      engine'.loaded.get? name = some ⟨source, node.modified⟩ := by
  cases load_outcome hrun with
  | reused source output node text hsource houtput hstat =>
    exact ⟨source, node, hsource, hstat, get?_loaded_noteSource ..⟩
  | expanded source output node text hsource houtput hstat =>
    exact ⟨source, node, hsource, hstat, get?_loaded_noteSource ..⟩

theorem expands_of_load (h : Faithful available engine disk name) {text : Text}
    (hrun : ((load available name).run.run engine).run disk = ((.ok (some text), engine'), disk')) :
    ∃ source node, engine.sourcePath? name = some source ∧ disk.stat source = .ok node ∧
      engine'.loaded.get? name = some ⟨source, node.modified⟩ ∧
      engine.plain.Expands available node text := by
  obtain ⟨source, node, hsource, hstat, hnoted⟩ := loaded_of_load hrun
  have hanswer := h.load_eq
  have hplain : ViewName.path? engine.plain.views name = some source := hsource
  rw [hrun, PlainEngine.expanded_of_stat hplain hstat] at hanswer
  obtain ⟨text', hexpand, hsame⟩ := map_eq_ok_iff.mp hanswer.symm
  cases hsame
  exact ⟨source, node, hsource, hstat, hnoted, (PlainEngine.expandSource_eq_ok hstat).mp hexpand⟩

theorem Faithful.remember (h : Faithful available engine disk name)
    (hapart : engine.views.Apart engine.outputs disk.here) {text : Text} {t : Template}
    (hrun : ((load available name).run.run engine).run disk = ((.ok (some text), engine'), disk'))
    (hparse : Template.parse text = .ok t) (hnone : engine.parsed.get? name = none) :
    Faithful available { engine' with parsed := engine'.parsed.insert name t } disk' name := by
  obtain ⟨hloads, hparsed, -⟩ := loads_load hapart hrun
  have hkept : Faithful available engine' disk' name := h.of_loads hloads hapart fun t ht ↦ by
    rw [hparsed, hnone] at ht
    cases ht
  refine ⟨fun t' ht' ↦ ?_, hkept.output⟩
  obtain ⟨source, node, hsource, hstat, hnoted, htext⟩ := expands_of_load h hrun
  have ht : t' = t := by
    rw [Entries.get?_insert, if_pos rfl] at ht'
    exact (Option.some.inj ht').symm
  subst ht
  refine ⟨source, node.modified, (hloads.sourcePath? name).trans hsource, hnoted, ?_⟩
  intro node' hnode' _
  rw [hloads.grows.here, hloads.source hapart hsource, (stat_eq_ok hstat).2] at hnode'
  cases hnode'
  exact ⟨text, (congrArg (fun plain ↦ PlainEngine.Expands plain available node text)
    hloads.plain).mpr htext, hparse⟩

/-- Loading a view of which no template is at hand leaves an engine ready. -/
theorem Ready.load (h : Ready names available engine disk)
    (hapart : engine.views.Apart engine.outputs disk.here) (hnone : engine.parsed.get? name = none)
    {found : Except Fault (Option Text)}
    (hrun : ((ViewEngine.load available name).run.run engine).run disk
      = ((found, engine'), disk')) :
    Loads available engine disk engine' disk' ∧ Ready names available engine' disk' ∧
      (names name → engine.plain.template available name disk = templateOf found) := by
  obtain ⟨hloads, hparsed, hother⟩ := loads_load hapart hrun
  refine ⟨hloads, ⟨fun n hn ↦ (h.faithful n hn).of_loads hloads hapart fun t ht ↦ ?_,
    fun n t hn ht ↦ ?_⟩, fun hname ↦ ?_⟩
  · rw [hparsed] at ht
    refine ⟨ht, hother n ?_⟩
    rintro rfl
    rw [hnone] at ht
    cases ht
  · rw [hparsed] at ht
    rw [hloads.template]
    exact h.current n t hn ht
  · rw [plain_template, ← (h.faithful name hname).load_eq, hrun]

/-- One question for a template: the answer is that of an engine without memory, and the engine is
ready for the next question. -/
theorem Ready.template (h : Ready names available engine disk)
    (hapart : engine.views.Apart engine.outputs disk.here) {answer : Except Fault Template}
    (hrun : ((ViewEngine.template available name).run engine).run disk
      = ((answer, engine'), disk')) :
    Loads available engine disk engine' disk' ∧ Ready names available engine' disk' ∧
      (names name → answer = engine.plain.template available name disk) := by
  cases asked hrun with
  | remembered t ht => exact ⟨.refl .., h, fun hname ↦ (h.current name t hname ht).symm⟩
  | refused hnone hload =>
    obtain ⟨hloads, hready, htemplate⟩ := h.load hapart hnone hload
    exact ⟨hloads, hready, fun hname ↦ (htemplate hname).symm⟩
  | @learned text t engine₁ _ hnone hload hparse =>
    obtain ⟨hloads, hready, htemplate⟩ := h.load hapart hnone hload
    rw [templateOf, hparse] at htemplate
    refine ⟨⟨hloads.plain, hloads.outputs, hloads.invalidatedAt, hloads.loaded, hloads.grows,
      hloads.stat⟩, ⟨fun n hn ↦ ?_, fun n t' hn ht' ↦ ?_⟩, fun hname ↦ (htemplate hname).symm⟩
    · by_cases hne : n = name
      · subst hne
        exact (h.faithful n hn).remember hapart hload hparse hnone
      · have hfaithful := hready.faithful n hn
        refine ⟨fun t' ht' ↦ hfaithful.parsed t' ?_, hfaithful.output⟩
        rwa [Entries.get?_insert, if_neg hne] at ht'
    · rw [Entries.get?_insert] at ht'
      split at ht'
      · next heq =>
        subst heq
        cases ht'
        exact (hloads.template n).trans (htemplate hn)
      · exact hready.current n t' hn ht'

end CompiledViews.ViewEngine
