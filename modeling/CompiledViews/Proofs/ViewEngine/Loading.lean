import CompiledViews.Proofs.Text.Bytes
import CompiledViews.Proofs.ViewEngine.Plain

/-!
# What loading a view changes

Loading has two effects. The engine takes note of the source's date, and it may write an output
file. So the disk grows: around the directory of outputs there may be new directories, and output
files get the expanded texts of the sources that are there. Where the directory of views keeps clear
of that, no source is touched, and since loading only writes after a source was found, all sources
are found as before.

This is said once for any number of loaded views, as a relation between two states; what an engine
may rely on afterwards is derived from it.
-/

namespace CompiledViews

open Template (Extensions Fault)
open Disk

/-! ## Output files -/

/-- The locations on the way of a path and below its goal. -/
def Path.Around (p : Path) (here l : Location) : Prop := p.goal here <+: l ∨ l ∈ p.trail here

namespace ViewEngine

variable {engine : ViewEngine} {available : Capabilities} {name : Text} {here : Location}
  {source output outputs : Path} {disk disk' : Disk} {text : Text}

theorem around_of_mem_entered (h : ViewName.path? outputs name = some output) {l : Location}
    (hl : l ∈ entered (output.start here) output.names) : outputs.Around here l := by
  rcases ViewName.mem_entered_of_path? h hl with hl | hl
  · exact .inr (List.mem_cons_of_mem _ hl)
  · exact .inl hl

/-- Writing an output file makes the directories it needs and puts the file at its place. -/
theorem adds_writeOutput (h : ViewName.path? outputs name = some output) :
    Adds here (outputs.Around here)
      (fun l content ↦ l = output.goal here ∧ content = encode text) (writeOutput output text) := by
  have hway : ∀ l ∈ entered (output.start here) output.names, outputs.Around here l :=
    fun _ hl ↦ around_of_mem_entered h hl
  rw [writeOutput]
  refine adds_bind ?_ fun _ ↦ adds_publish_draft ⟨rfl, rfl⟩
  cases hparent : output.parent? with
  | none =>
    have hnames : Path.names (⟨['.']⟩ : Path) = [['.']] := by decide
    refine adds_makeDirectories fun l hl ↦ ?_
    rw [Option.getD_none, hnames] at hl
    simp at hl
  | some directory =>
    refine adds_makeDirectories fun l hl ↦ hway l ?_
    rw [Option.getD_some, Path.start_of_isAbsolute (Path.isAbsolute_of_parent? hparent)] at hl
    exact mem_entered_of_prefix (Path.names_of_parent? hparent) hl

theorem run_expandSource (engine : ViewEngine) (available : Capabilities) (name : Text)
    (source output : Path) (disk : Disk) :
    (engine.expandSource available name source output).run.run disk =
      match engine.plain.expandSource available name source disk with
      | .error fault => (.error fault, disk)
      | .ok text => (.ok text, ((writeOutput output text).run.run disk).2) := by
  rw [expandSource, PlainEngine.expandSource, run_bind, run_query]
  cases disk.readText source with
  | error fault => rfl
  | ok text =>
    simp only [run_bind, run_query, mapError_ok, plain]
    cases engine.registry.expand available text <;> rfl

/-! ## Running the steps -/

theorem exists_outputPath? (h : engine.sourcePath? name = some source) :
    ∃ output, engine.outputPath? name = some output :=
  ⟨_, ViewName.path?_eq_some.mpr ⟨(ViewName.path?_eq_some.mp h).1, rfl⟩⟩

/-- The engine after it has taken note of the date of a view's source. -/
def noteSource (engine : ViewEngine) (name : Text) (source : Path) (time : Time) : ViewEngine :=
  { engine with loaded := engine.loaded.insert name ⟨source, time⟩ }

theorem get?_loaded_noteSource (engine : ViewEngine) (name : Text) (source : Path) (time : Time) :
    (engine.noteSource name source time).loaded.get? name = some ⟨source, time⟩ := by
  rw [noteSource, Entries.get?_insert, if_pos rfl]

theorem get?_loaded_noteSource_of_ne {other : Text} {time : Time} (h : other ≠ name) :
    (engine.noteSource name source time).loaded.get? other = engine.loaded.get? other := by
  rw [noteSource, Entries.get?_insert, if_neg h]

theorem run_load (available : Capabilities) (name : Text) (engine : ViewEngine) (disk : Disk) :
    ((load available name).run.run engine).run disk =
      match engine.sourcePath? name, engine.outputPath? name with
      | some source, some output =>
        match disk.modified source with
        | .error .notFound => ((.ok none, engine), disk)
        | .error fault => ((.error (.unreadable source fault), engine), disk)
        | .ok modified =>
          let engine' := engine.noteSource name source modified
          match engine.reusableOutput? output modified disk with
          | some text => ((.ok (some text), engine'), disk)
          | none =>
            let expansion := (engine.expandSource available name source output).run.run disk
            ((expansion.1.map some, engine'), expansion.2)
      | _, _ => ((.ok none, engine), disk) := by
  rw [load, Guarded.run_bind, Guarded.run_get]
  cases hsource : engine.sourcePath? name with
  | none =>
    simp only [hsource]
    rfl
  | some source =>
    cases houtput : engine.outputPath? name with
    | none =>
      simp only [hsource, houtput]
      rfl
    | some output =>
      simp only [hsource, houtput, Guarded.run_bind, Guarded.run_getDisk]
      rcases disk.modified source with fault | modified
      · cases fault <;> rfl
      · simp only [Guarded.run_bind, Guarded.run_modify, Guarded.run_getDisk]
        cases engine.reusableOutput? output modified disk with
        | some text => rfl
        | none =>
          simp only [Guarded.run_bind, Guarded.run_lift]
          cases ((engine.expandSource available name source output).run.run disk).1 <;> rfl

theorem run_load_of_source (available : Capabilities)
    (hsource : engine.sourcePath? name = some source)
    (houtput : engine.outputPath? name = some output) (disk : Disk) :
    ((load available name).run.run engine).run disk =
      match disk.stat source with
      | .error .notFound => ((.ok none, engine), disk)
      | .error fault => ((.error (.unreadable source fault), engine), disk)
      | .ok node =>
        let engine' := engine.noteSource name source node.modified
        match engine.reusableOutput? output node.modified disk with
        | some text => ((.ok (some text), engine'), disk)
        | none =>
          match engine.plain.expandSource available name source disk with
          | .error fault => ((.error fault, engine'), disk)
          | .ok text =>
            ((.ok (some text), engine'), ((writeOutput output text).run.run disk).2) := by
  rw [run_load, hsource, houtput]
  dsimp only
  rw [Disk.modified]
  rcases disk.stat source with fault | node
  · cases fault <;> rfl
  · simp only [Except.map, run_expandSource]
    cases engine.reusableOutput? output node.modified disk with
    | some text => rfl
    | none => cases engine.plain.expandSource available name source disk <;> rfl

theorem run_load_nameless (available : Capabilities) (hsource : engine.sourcePath? name = none)
    (disk : Disk) :
    ((load available name).run.run engine).run disk = ((.ok none, engine), disk) := by
  rw [run_load, hsource]

/-- How loading a view may go: what is found, and what engine and disk are like then. -/
inductive LoadOutcome (available : Capabilities) (name : Text) (engine : ViewEngine) (disk : Disk) :
    Except Fault (Option Text) → ViewEngine → Disk → Prop
  /-- The name is not that of a view. -/
  | nameless (hsource : engine.sourcePath? name = none) :
    LoadOutcome available name engine disk (.ok none) engine disk
  /-- There is no source. -/
  | missing (source : Path) (hsource : engine.sourcePath? name = some source)
    (hstat : disk.stat source = .error .notFound) :
    LoadOutcome available name engine disk (.ok none) engine disk
  /-- The source cannot be looked at. -/
  | unreadable (source : Path) (fault : IoFault) (hsource : engine.sourcePath? name = some source)
    (hstat : disk.stat source = .error fault) (hfault : fault ≠ .notFound) :
    LoadOutcome available name engine disk (.error (.unreadable source fault)) engine disk
  /-- The output file will do. -/
  | reused (source output : Path) (node : Node) (text : Text)
    (hsource : engine.sourcePath? name = some source)
    (houtput : engine.outputPath? name = some output) (hstat : disk.stat source = .ok node)
    (hreuse : engine.reusableOutput? output node.modified disk = some text) :
    LoadOutcome available name engine disk (.ok (some text))
      (engine.noteSource name source node.modified) disk
  /-- The source cannot be expanded. -/
  | failed (source output : Path) (node : Node) (fault : Fault)
    (hsource : engine.sourcePath? name = some source)
    (houtput : engine.outputPath? name = some output) (hstat : disk.stat source = .ok node)
    (hnone : engine.reusableOutput? output node.modified disk = none)
    (hexpand : engine.plain.expandSource available name source disk = .error fault) :
    LoadOutcome available name engine disk (.error fault)
      (engine.noteSource name source node.modified) disk
  /-- The source has been expanded, and the output file written if that could be done. -/
  | expanded (source output : Path) (node : Node) (text : Text)
    (hsource : engine.sourcePath? name = some source)
    (houtput : engine.outputPath? name = some output) (hstat : disk.stat source = .ok node)
    (hnone : engine.reusableOutput? output node.modified disk = none)
    (hexpand : engine.plain.expandSource available name source disk = .ok text) :
    LoadOutcome available name engine disk (.ok (some text))
      (engine.noteSource name source node.modified) ((writeOutput output text).run.run disk).2

theorem load_outcome {engine' : ViewEngine} {found : Except Fault (Option Text)}
    (hrun : ((load available name).run.run engine).run disk = ((found, engine'), disk')) :
    LoadOutcome available name engine disk found engine' disk' := by
  cases hsource : engine.sourcePath? name with
  | none =>
    cases (run_load_nameless available hsource disk).symm.trans hrun
    exact .nameless hsource
  | some source =>
    obtain ⟨output, houtput⟩ := exists_outputPath? hsource
    rw [run_load_of_source available hsource houtput] at hrun
    cases hstat : disk.stat source with
    | error fault =>
      rw [hstat] at hrun
      cases fault with
      | notFound =>
        cases hrun
        exact .missing source hsource hstat
      | _ =>
        cases hrun
        exact .unreadable source _ hsource hstat nofun
    | ok node =>
      rw [hstat] at hrun
      dsimp only at hrun
      cases hreuse : engine.reusableOutput? output node.modified disk with
      | some text =>
        rw [hreuse] at hrun
        cases hrun
        exact .reused source output node text hsource houtput hstat hreuse
      | none =>
        rw [hreuse] at hrun
        cases hexpand : engine.plain.expandSource available name source disk with
        | error fault =>
          rw [hexpand] at hrun
          cases hrun
          exact .failed source output node fault hsource houtput hstat hreuse hexpand
        | ok text =>
          rw [hexpand] at hrun
          cases hrun
          exact .expanded source output node text hsource houtput hstat hreuse hexpand

/-- The template of a view whose text has been looked up. -/
def templateOf : Except Fault (Option Text) → Except Fault Template
  | .error fault => .error fault
  | .ok none => .error (.plain .templateNotFound)
  | .ok (some text) => (Template.parse text).mapError .plain

theorem plain_template (plain : PlainEngine) (available : Capabilities) (name : Text)
    (disk : Disk) :
    plain.template available name disk = templateOf (plain.expanded available name disk) := by
  rw [PlainEngine.template]
  rcases plain.expanded available name disk with fault | _ | text <;> rfl

/-- How a question for a template may go: what is answered, and what engine and disk are like
then. -/
inductive Asked (available : Capabilities) (name : Text) (engine : ViewEngine) (disk : Disk) :
    Except Fault Template → ViewEngine → Disk → Prop
  /-- The template is at hand. -/
  | remembered (t : Template) (h : engine.parsed.get? name = some t) :
    Asked available name engine disk (.ok t) engine disk
  /-- The view has been loaded, but there is no template. -/
  | refused {found : Except Fault (Option Text)} {engine' : ViewEngine} {disk' : Disk}
    (hnone : engine.parsed.get? name = none)
    (hload : ((load available name).run.run engine).run disk = ((found, engine'), disk')) :
    Asked available name engine disk (templateOf found) engine' disk'
  /-- The view has been loaded, and its template is kept. -/
  | learned {text : Text} {t : Template} {engine' : ViewEngine} {disk' : Disk}
    (hnone : engine.parsed.get? name = none)
    (hload : ((load available name).run.run engine).run disk = ((.ok (some text), engine'), disk'))
    (hparse : Template.parse text = .ok t) :
    Asked available name engine disk (.ok t)
      { engine' with parsed := engine'.parsed.insert name t } disk'

theorem asked {engine' : ViewEngine} {answer : Except Fault Template}
    (hrun : ((template available name).run engine).run disk = ((answer, engine'), disk')) :
    Asked available name engine disk answer engine' disk' := by
  rw [template, Stateful.run_bind, Stateful.run_get] at hrun
  dsimp only at hrun
  cases hparsed : engine.parsed.get? name with
  | some t =>
    rw [hparsed] at hrun
    cases hrun
    exact .remembered t hparsed
  | none =>
    rw [hparsed] at hrun
    simp only [Stateful.run_bind] at hrun
    rcases hload : ((load available name).run.run engine).run disk with
      ⟨⟨fault | _ | text, engine₁⟩, disk₁⟩
    · rw [hload] at hrun
      cases hrun
      exact .refused hparsed hload
    · rw [hload] at hrun
      cases hrun
      exact .refused hparsed hload
    · rw [hload] at hrun
      dsimp only at hrun
      cases hparse : Template.parse text with
      | error kind =>
        rw [hparse] at hrun
        cases hrun
        have hrefused : templateOf (.ok (some text)) = .error (.plain kind) := by
          rw [templateOf, hparse]
          rfl
        rw [← hrefused]
        exact .refused hparsed hload
      | ok t =>
        rw [hparse] at hrun
        cases hrun
        exact .learned hparsed hload hparse

theorem reusableOutput?_eq_some {modified : Time}
    (h : engine.reusableOutput? output modified disk = some text) :
    ∃ content written, disk.node? (output.goal disk.here) = some (.file content written) ∧
      engine.invalidatedAt < written ∧ modified < written ∧ decode content = .ok text := by
  rw [reusableOutput?] at h
  split at h
  · next written hwritten =>
    obtain ⟨node, hstat, rfl⟩ := modified_eq_ok hwritten
    split at h
    · cases h
    · next hfresh =>
      simp only [isExpired, decide_eq_true_eq, Nat.not_le, Nat.max_lt] at hfresh
      rw [readText, Disk.read, hstat] at h
      cases node with
      | directory time => cases h
      | file content time =>
        refine ⟨content, time, (stat_eq_ok hstat).2, hfresh.1, hfresh.2, ?_⟩
        cases hdecode : decode content with
        | error fault =>
          simp only [Except.bind, hdecode] at h
          cases h
        | ok plain =>
          simp only [Except.bind, hdecode] at h
          cases h
          rfl
  · cases h

/-! ## What loading leaves alone -/

/-- What an engine may write to a location: the expanded text of a view, to that view's output
file. -/
def Output (engine : ViewEngine) (available : Capabilities) (disk : Disk) (l : Location)
    (content : ByteArray) : Prop :=
  ∃ name source output node text, engine.sourcePath? name = some source ∧
    engine.outputPath? name = some output ∧ l = output.goal disk.here ∧
    disk.node? (source.goal disk.here) = some node ∧
    engine.plain.Expands available node text ∧ content = encode text

/-- What an engine and a disk have become when the engine has loaded views, and nothing else has
happened. -/
structure Loads (available : Capabilities) (engine : ViewEngine) (disk : Disk)
    (engine' : ViewEngine) (disk' : Disk) : Prop where
  plain : engine'.plain = engine.plain
  outputs : engine'.outputs = engine.outputs
  invalidatedAt : engine'.invalidatedAt = engine.invalidatedAt
  /-- Sources that have been loaded meanwhile were found as they are. -/
  loaded : ∀ name source, engine'.loaded.get? name = some source →
    engine.loaded.get? name = some source ∨
      engine.sourcePath? name = some source.path ∧ disk.modified source.path = .ok source.modified
  grows : disk.Grows (engine.outputs.Around disk.here) (engine.Output available disk) disk'
  /-- Every source is still found, or not found, as it was. -/
  stat : ∀ name source, engine.sourcePath? name = some source →
    disk'.stat source = disk.stat source

end ViewEngine

theorem Path.Apart.not_around {p q : Path} {here l : Location} (h : p.Apart q here)
    (hl : p.goal here <+: l) : ¬q.Around here l := by
  rintro (hgoal | htrail)
  · rcases List.prefix_or_prefix_of_prefix hl hgoal with hpq | hqp
    · exact h.1 _ goal_mem_trail hpq
    · exact h.2 _ goal_mem_trail hqp
  · exact h.1 l htrail hl

namespace ViewEngine

variable {engine engine' engine'' : ViewEngine} {available : Capabilities} {name : Text}
  {disk disk' disk'' : Disk} {answer : Except Fault (Option Text)}

theorem around_of_output {l : Location} {content : ByteArray}
    (h : engine.Output available disk l content) : engine.outputs.Around disk.here l := by
  obtain ⟨name, source, output, node, text, -, houtput, rfl, -⟩ := h
  rw [ViewName.goal_of_path? houtput]
  exact .inl (List.prefix_append _ _)

namespace Loads

theorem refl (available : Capabilities) (engine : ViewEngine) (disk : Disk) :
    Loads available engine disk engine disk :=
  ⟨rfl, rfl, rfl, fun _ _ h ↦ .inl h, .refl disk, fun _ _ _ ↦ rfl⟩

theorem calls (h : Loads available engine disk engine' disk') (calls : List Text) :
    Loads available engine disk { engine' with calls } disk' :=
  ⟨h.plain, h.outputs, h.invalidatedAt, h.loaded, h.grows, h.stat⟩

theorem sourcePath? (h : Loads available engine disk engine' disk') (name : Text) :
    engine'.sourcePath? name = engine.sourcePath? name :=
  congrArg (fun plain : PlainEngine ↦ ViewName.path? plain.views name) h.plain

theorem outputPath? (h : Loads available engine disk engine' disk') (name : Text) :
    engine'.outputPath? name = engine.outputPath? name := by
  rw [ViewEngine.outputPath?, ViewEngine.outputPath?, h.outputs]

theorem views (h : Loads available engine disk engine' disk')
    (hapart : engine.views.Apart engine.outputs disk.here) {l : Location}
    (hl : engine.views.goal disk.here <+: l) : disk'.node? l = disk.node? l :=
  h.grows.frame fun _ hbelow ↦ ⟨hapart.not_around (hl.trans hbelow),
    fun _ hfile ↦ hapart.not_around (hl.trans hbelow) (around_of_output hfile)⟩

/-- While the directory of outputs is in place, nothing outside of it is touched. -/
theorem outside (h : Loads available engine disk engine' disk')
    (hthere : disk.isDirectory engine.outputs = true) {l : Location}
    (hl : ¬engine.outputs.goal disk.here <+: l) : disk'.node? l = disk.node? l := by
  refine h.grows.frame_of_hasDirectory ?_ ?_
  · rintro l' (hbelow | htrail) hentry
    · rcases hentry with rfl | rfl
      · exact absurd hbelow hl
      · rcases List.eq_nil_or_concat l' with rfl | ⟨before, name, rfl⟩
        · exact absurd hbelow hl
        · -- the directory of outputs itself is an entry of what is around it
          rw [List.concat_eq_append] at hbelow hl ⊢
          rw [List.dropLast_concat] at hl
          rw [← (List.prefix_concat_iff.mp hbelow).resolve_right hl]
          exact hasDirectory_of_isDirectory hthere Path.goal_mem_trail
    · exact hasDirectory_of_isDirectory hthere htrail
  · rintro l' content ⟨name, source, output, node, text, -, houtput, rfl, -⟩
    rw [ViewName.goal_of_path? houtput]
    refine ⟨fun heq ↦ hl (heq ▸ List.prefix_append _ _), fun heq ↦ hl ?_⟩
    rw [← heq, List.dropLast_append_of_ne_nil (ViewName.steps_ne_nil name)]
    exact List.prefix_append _ _

theorem source (h : Loads available engine disk engine' disk')
    (hapart : engine.views.Apart engine.outputs disk.here) {source : Path}
    (hsource : engine.sourcePath? name = some source) :
    disk'.node? (source.goal disk.here) = disk.node? (source.goal disk.here) := by
  refine h.views hapart ?_
  rw [ViewName.goal_of_path? hsource]
  exact List.prefix_append _ _

theorem apart (h : Loads available engine disk engine' disk')
    (hapart : engine.views.Apart engine.outputs disk.here) :
    engine'.views.Apart engine'.outputs disk'.here := by
  have hviews : engine'.views = engine.views := congrArg PlainEngine.views h.plain
  rwa [hviews, h.outputs, h.grows.here]

theorem template (h : Loads available engine disk engine' disk') (name : Text) :
    engine'.plain.template available name disk' = engine.plain.template available name disk := by
  rw [h.plain]
  exact PlainEngine.template_congr fun source hsource ↦ by rw [h.stat name source hsource]

theorem trans (h : Loads available engine disk engine' disk')
    (h' : Loads available engine' disk' engine'' disk'')
    (hapart : engine.views.Apart engine.outputs disk.here) :
    Loads available engine disk engine'' disk'' where
  plain := h'.plain.trans h.plain
  outputs := h'.outputs.trans h.outputs
  invalidatedAt := h'.invalidatedAt.trans h.invalidatedAt
  loaded := by
    intro name source hsource
    rcases h'.loaded name source hsource with hold | ⟨hpath, hmodified⟩
    · exact h.loaded name source hold
    · rw [h.sourcePath?] at hpath
      rw [modified, h.stat name _ hpath] at hmodified
      exact .inr ⟨hpath, hmodified⟩
  grows := by
    refine h.grows.trans (h'.grows.mono ?_ ?_)
    · intro l hl
      rwa [h.outputs, h.grows.here] at hl
    · rintro l content ⟨name, source, output, node, text, hsource, houtput, rfl, hnode, htext, rfl⟩
      rw [h.sourcePath?] at hsource
      rw [h.outputPath?] at houtput
      rw [h.grows.here, h.source hapart hsource] at hnode
      rw [h.plain] at htext
      exact ⟨name, source, output, node, text, hsource, houtput, by rw [h.grows.here], hnode, htext,
        rfl⟩
  stat := by
    intro name source hsource
    rw [h'.stat name source (by rwa [h.sourcePath?]), h.stat name source hsource]

end Loads

/-- The way to one source is the way to the directory of views. Once it has been gone, growth
around the outputs changes nothing for any source. -/
theorem stat_of_grows {source : Path} {node : Node} {files : Location → ByteArray → Prop}
    (hapart : engine.views.Apart engine.outputs disk.here)
    (hsource : engine.sourcePath? name = some source) (hstat : disk.stat source = .ok node)
    (hgrows : disk.Grows (engine.outputs.Around disk.here) files disk')
    (hfiles : ∀ l content, files l content → engine.outputs.Around disk.here l) {other : Text}
    {source' : Path} (hsource' : engine.sourcePath? other = some source') :
    disk'.stat source' = disk.stat source' := by
  have hbelow : ∀ l, engine.views.goal disk.here <+: l → disk'.node? l = disk.node? l := by
    intro l hl
    exact hgrows.frame fun l' hbelow ↦ ⟨hapart.not_around (hl.trans hbelow),
      fun content hfile ↦ hapart.not_around (hl.trans hbelow) (hfiles l' content hfile)⟩
  obtain ⟨⟨d, hd⟩, -⟩ := stat_eq_ok hstat
  refine stat_congr hgrows.here ?_ (hbelow _ ?_)
  · intro l hl
    rcases (ViewName.mem_way_of_path? hsource').mp hl with hviews | hsteps
    · have hdirectory : disk.HasDirectory l :=
        hasDirectory_of_destination hd ((ViewName.mem_way_of_path? hsource).mpr (.inl hviews))
      exact (hgrows.hasDirectory hdirectory).trans hdirectory.symm
    · have hvalid := (ViewName.path?_eq_some.mp hsource').1
      rw [kind, kind, hbelow l]
      exact prefix_of_mem_entered (fun step hstep ↦
        (ViewName.isStep_of_mem_steps hvalid (List.dropLast_subset _ hstep)).2) hsteps
  · rw [ViewName.goal_of_path? hsource']
    exact List.prefix_append _ _

theorem loads_writeOutput {source output : Path} {node : Node} {text : Text}
    (hapart : engine.views.Apart engine.outputs disk.here)
    (hsource : engine.sourcePath? name = some source)
    (houtput : engine.outputPath? name = some output) (hstat : disk.stat source = .ok node)
    (htext : engine.plain.Expands available node text) :
    Loads available engine disk engine ((writeOutput output text).run.run disk).2 := by
  have hgrows : disk.Grows (engine.outputs.Around disk.here) (engine.Output available disk)
      ((writeOutput output text).run.run disk).2 := by
    refine Grows.mono (adds_writeOutput houtput disk rfl) (fun _ h ↦ h) ?_
    rintro l content ⟨rfl, rfl⟩
    exact ⟨name, source, output, node, text, hsource, houtput, rfl, (stat_eq_ok hstat).2, htext,
      rfl⟩
  exact ⟨rfl, rfl, rfl, fun _ _ h ↦ .inl h, hgrows, fun _ _ hsource' ↦
    stat_of_grows hapart hsource hstat hgrows (fun _ _ ↦ around_of_output) hsource'⟩

theorem loads_noteSource {source : Path} {node : Node}
    (hsource : engine.sourcePath? name = some source) (hstat : disk.stat source = .ok node) :
    Loads available engine disk (engine.noteSource name source node.modified) disk := by
  refine ⟨rfl, rfl, rfl, ?_, .refl disk, fun _ _ _ ↦ rfl⟩
  intro other source' hloaded
  by_cases heq : other = name
  · subst heq
    rw [get?_loaded_noteSource] at hloaded
    cases hloaded
    exact .inr ⟨hsource, by rw [modified, hstat, Except.map]⟩
  · rw [get?_loaded_noteSource_of_ne heq] at hloaded
    exact .inl hloaded

/-- What loading a view does to engine and disk, whatever comes of it. -/
theorem loads_load (hapart : engine.views.Apart engine.outputs disk.here)
    (hrun : ((load available name).run.run engine).run disk = ((answer, engine'), disk')) :
    Loads available engine disk engine' disk' ∧ engine'.parsed = engine.parsed ∧
      ∀ other, other ≠ name → engine'.loaded.get? other = engine.loaded.get? other := by
  cases load_outcome hrun with
  | nameless => exact ⟨.refl .., rfl, fun _ _ ↦ rfl⟩
  | missing => exact ⟨.refl .., rfl, fun _ _ ↦ rfl⟩
  | unreadable => exact ⟨.refl .., rfl, fun _ _ ↦ rfl⟩
  | reused source output node text hsource houtput hstat hreuse =>
    exact ⟨loads_noteSource hsource hstat, rfl, fun _ ↦ get?_loaded_noteSource_of_ne⟩
  | failed source output node fault hsource houtput hstat hnone hexpand =>
    exact ⟨loads_noteSource hsource hstat, rfl, fun _ ↦ get?_loaded_noteSource_of_ne⟩
  | expanded source output node text hsource houtput hstat hnone hexpand =>
    have htext := (PlainEngine.expandSource_eq_ok hstat).mp hexpand
    refine ⟨(loads_noteSource hsource hstat).trans ?_ hapart, rfl,
      fun _ ↦ get?_loaded_noteSource_of_ne⟩
    exact loads_writeOutput hapart hsource houtput hstat htext

end ViewEngine

end CompiledViews
