import CompiledViews.Proofs.Disk.Confined
import CompiledViews.Proofs.Entries
import CompiledViews.Proofs.ViewCache.Artifact
import CompiledViews.Proofs.ViewEngine.Answers
import CompiledViews.Proofs.ViewEngine.Transparency

/-!
# Engines keep to their directories

Names of views come from requests and from templates, so they may be any texts at all. The file of
a view is found without asking the disk: a name is either refused, or its segments follow the
components of the directory, with the extension at the last one. So the file is below the directory
wherever that is, and no two names share a file.

Loading a view looks at two files, the view's source and its output file. Whatever an engine does it
does by loading views, and by comparing the sources it has noted with their dates; so what lies
strictly below the directory of views and the directory of outputs settles every answer, together
with which locations on the way to the two are directories. Nothing else is read, and files are
written below the directory of outputs only.

This is said of two runs at once: on disks that agree about the two directories an engine gives the
same answers and becomes the same, and the disks agree afterwards.
-/

namespace CompiledViews

open Template (Fault Rendering)
open Disk

/-! ## The files of views -/

namespace ViewName

variable {directory p q : Path} {name other last : Text} {before : List Text} {here l : Location}

/-- The components of a view's file are those of the directory and the segments of the name. -/
theorem components_of_path? (h : path? directory name = some p) :
    p.components = directory.components ++ (steps name).map .normal := by
  obtain ⟨hvalid, rfl⟩ := path?_eq_some.mp h
  rw [← segments_relativePath hvalid]
  refine Path.components_join_of_normal (isAbsolute_relativePath hvalid) fun step hstep leading ↦ ?_
  rw [segments_relativePath hvalid] at hstep
  obtain ⟨hempty, hstep⟩ := isStep_of_mem_steps hvalid hstep
  exact Path.component?_of_isStep hempty hstep

theorem eq_of_isSame (hp : path? directory name = some p) (hq : path? directory other = some q)
    (h : p.isSame q = true) : name = other := by
  rw [Path.isSame, beq_iff_eq, components_of_path? hp, components_of_path? hq] at h
  exact steps_injective
    (List.map_injective_iff.mpr (fun _ _ ↦ Component.normal.inj) (List.append_cancel_left h))

theorem inside_of_path? (h : path? directory name = some p) :
    Location.Inside (directory.goal here) (p.goal here) := by
  rw [goal_of_path? h]
  exact ⟨List.prefix_append _ _, fun heq ↦ steps_ne_nil name (List.append_right_eq_self.mp heq)⟩

/-- What the way to a view's file passes is passed on the way to the directory, or below that. -/
theorem passes_or_inside (h : path? directory name = some p) (hl : p.Passes here l) :
    directory.Passes here l ∨ Location.Inside (directory.goal here) l := by
  obtain ⟨hvalid, rfl⟩ := path?_eq_some.mp h
  obtain ⟨names, hnames, rfl⟩ := hl
  have hrelative := isAbsolute_relativePath hvalid
  rw [Path.names_join hrelative, names_relativePath hvalid] at hnames
  rw [Path.start_of_isAbsolute (Path.isAbsolute_join hrelative)]
  rcases List.prefix_or_prefix_of_prefix hnames (List.prefix_append directory.names (steps name))
    with hdirectory | ⟨later, rfl⟩
  · exact .inl ⟨names, hdirectory, rfl⟩
  · have hlater : later <+: steps name := (List.prefix_append_right_inj _).mp hnames
    rw [reached_append, reached_of_isStep fun step hstep ↦
      (isStep_of_mem_steps hvalid (hlater.subset hstep)).2]
    by_cases hnil : later = []
    · rw [hnil, List.append_nil]
      exact .inl Path.passes_goal
    · exact .inr ⟨List.prefix_append _ _, fun heq ↦ hnil (List.append_right_eq_self.mp heq)⟩

/-- How names lead to files below a directory. -/
structure LeadBelow (directory : Path) (path? : Text → Option Path) : Prop where
  isSome_iff : ∀ name, (path? name).isSome = true ↔ ∀ segment ∈ Text.splitAll '/' name,
    segment ≠ [] ∧ segment ≠ ['.'] ∧ segment ≠ ['.', '.'] ∧ '\\' ∉ segment
  /-- The extension goes to the last segment. -/
  components : ∀ name p before last, path? name = some p →
    Text.splitAll '/' name = before ++ [last] →
      p.components = directory.components ++
        (before ++ [last ++ '.' :: artifactExtension]).map .normal
  /-- Wherever the directory is, the file is strictly below it. -/
  inside : ∀ name p here, path? name = some p → Location.Inside (directory.goal here) (p.goal here)
  injective : ∀ name other p q, path? name = some p → path? other = some q → p.isSame q = true →
    name = other

theorem leadBelow (directory : Path) : LeadBelow directory (path? directory) where
  isSome_iff name := by
    rw [← isValid_iff, Option.isSome_iff_exists]
    exact ⟨fun ⟨_, h⟩ ↦ (path?_eq_some.mp h).1, fun h ↦ ⟨_, path?_eq_some.mpr ⟨h, rfl⟩⟩⟩
  components name p before last h hsegments := by rw [components_of_path? h, steps_eq hsegments]
  inside _ _ _ := inside_of_path?
  injective _ _ _ _ := eq_of_isSame

end ViewName

namespace ViewEngine

variable {engine engine' : ViewEngine} {available : Capabilities} {name : Text}
  {source output views outputs : Path} {disk disk' : Disk} {here l : Location} {α β : Type}

/-! ## The two files that loading looks at -/

theorem reusableOutput?_congr {modified : Time} (h : disk'.stat output = disk.stat output) :
    engine.reusableOutput? output modified disk' = engine.reusableOutput? output modified disk := by
  rw [reusableOutput?, reusableOutput?, Disk.modified, Disk.modified, readText, readText, Disk.read,
    Disk.read, h]

theorem plain_expandSource_congr (h : disk'.stat source = disk.stat source) :
    engine.plain.expandSource available name source disk'
      = engine.plain.expandSource available name source disk :=
  PlainEngine.expandSource_congr (by rw [readText, readText, Disk.read, Disk.read, h])

/-- What comes of loading a view, but for what is written, is settled by its source and its output
file. -/
theorem load_congr
    (hsource : ∀ source, engine.sourcePath? name = some source →
      disk'.stat source = disk.stat source)
    (houtput : ∀ output, engine.outputPath? name = some output →
      disk'.stat output = disk.stat output) :
    (((load available name).run.run engine).run disk').1
      = (((load available name).run.run engine).run disk).1 := by
  cases hs : engine.sourcePath? name with
  | none => rw [run_load_nameless available hs, run_load_nameless available hs]
  | some source =>
    obtain ⟨output, ho⟩ := exists_outputPath? hs
    simp only [run_load_of_source available hs ho, hsource source hs,
      reusableOutput?_congr (houtput output ho), plain_expandSource_congr (hsource source hs)]
    rcases disk.stat source with fault | node
    · cases fault <;> rfl
    · dsimp only
      cases engine.reusableOutput? output node.modified disk with
      | some text => rfl
      | none => cases engine.plain.expandSource available name source disk <;> rfl

/-! ## Keeping to two directories -/

/-- The locations passed on the way to one of two directories. -/
def Ways (views outputs : Path) (here l : Location) : Prop :=
  views.Passes here l ∨ outputs.Passes here l

/-- The locations strictly below one of two directories. -/
def Own (views outputs : Path) (here l : Location) : Prop :=
  Location.Inside (views.goal here) l ∨ Location.Inside (outputs.goal here) l

/-- Whether an engine is for two directories, and has noted only sources in the first of them. -/
structure Rooted (views outputs : Path) (engine : ViewEngine) : Prop where
  views_eq : engine.views = views
  outputs_eq : engine.outputs = outputs
  loaded : ∀ entry ∈ engine.loaded, ViewName.path? views entry.1 = some entry.2.path

/-- Whether what an engine does keeps to its two directories. On disks that agree about them it has
the same answer and makes the same of the engine, and they agree about them afterwards; files are
written strictly below the directory of outputs only. -/
def KeepsTo (views outputs : Path) (action : EngineAction α) : Prop :=
  ∀ engine here disk disk', Rooted views outputs engine →
    Agree here (Ways views outputs here) (Own views outputs here) disk disk' →
      ∃ answer engine' after after', (action.run engine).run disk = ((answer, engine'), after) ∧
        (action.run engine).run disk' = ((answer, engine'), after') ∧
        Rooted views outputs engine' ∧
        Agree here (Ways views outputs here) (Own views outputs here) after after' ∧
        disk.Grows (outputs.Around here) (fun l _ ↦ Location.Inside (outputs.goal here) l) after

theorem keepsTo_pure (a : α) : KeepsTo views outputs (pure a) :=
  fun engine _ disk disk' hrooted hagree ↦
    ⟨a, engine, disk, disk', rfl, rfl, hrooted, hagree, .refl disk⟩

theorem keepsTo_get : KeepsTo views outputs (get : EngineAction ViewEngine) :=
  fun engine _ disk disk' hrooted hagree ↦
    ⟨engine, engine, disk, disk', rfl, rfl, hrooted, hagree, .refl disk⟩

theorem keepsTo_modify {f : ViewEngine → ViewEngine}
    (h : ∀ engine, Rooted views outputs engine → Rooted views outputs (f engine)) :
    KeepsTo views outputs (modify f : EngineAction PUnit) :=
  fun engine _ disk disk' hrooted hagree ↦
    ⟨⟨⟩, f engine, disk, disk', rfl, rfl, h engine hrooted, hagree, .refl disk⟩

theorem keepsTo_bind {action : EngineAction α} {f : α → EngineAction β}
    (h : KeepsTo views outputs action) (hf : ∀ a, KeepsTo views outputs (f a)) :
    KeepsTo views outputs (action >>= f) := by
  intro engine here disk disk' hrooted hagree
  obtain ⟨a, engine₁, disk₁, disk₁', hrun, hrun', hrooted₁, hagree₁, hgrows₁⟩ :=
    h engine here disk disk' hrooted hagree
  obtain ⟨b, engine₂, disk₂, disk₂', hthen, hthen', hrooted₂, hagree₂, hgrows₂⟩ :=
    hf a engine₁ here disk₁ disk₁' hrooted₁ hagree₁
  refine ⟨b, engine₂, disk₂, disk₂', ?_, ?_, hrooted₂, hagree₂, hgrows₁.trans hgrows₂⟩
  · rw [Stateful.run_bind, hrun]
    exact hthen
  · rw [Stateful.run_bind, hrun']
    exact hthen'

/-! ## Loading -/

namespace Rooted

theorem sourcePath? (h : Rooted views outputs engine) (name : Text) :
    engine.sourcePath? name = ViewName.path? views name := by
  rw [ViewEngine.sourcePath?, h.views_eq]

theorem outputPath? (h : Rooted views outputs engine) (name : Text) :
    engine.outputPath? name = ViewName.path? outputs name := by
  rw [ViewEngine.outputPath?, h.outputs_eq]

theorem noteSource (h : Rooted views outputs engine)
    (hsource : ViewName.path? views name = some source) (time : Time) :
    Rooted views outputs (engine.noteSource name source time) where
  views_eq := h.views_eq
  outputs_eq := h.outputs_eq
  loaded := by
    intro entry hentry
    rcases Entries.mem_insert hentry with rfl | hold
    · exact hsource
    · exact h.loaded entry hold

theorem forget (h : Rooted views outputs engine) : Rooted views outputs engine.forget :=
  ⟨h.views_eq, h.outputs_eq, fun _ hentry ↦ (nomatch hentry)⟩

end Rooted

theorem stat_source_of_agree
    (h : Agree here (Ways views outputs here) (Own views outputs here) disk disk')
    (hsource : ViewName.path? views name = some source) : disk'.stat source = disk.stat source :=
  h.stat (fun _ hl ↦ (ViewName.passes_or_inside hsource
      (Path.passes_of_mem_trail (Path.mem_trail_of_mem_way hl))).imp .inl .inl)
    (.inl (ViewName.inside_of_path? hsource))

theorem agreed_of_passes_output (houtput : ViewName.path? outputs name = some output)
    (hl : output.Passes here l) : Ways views outputs here l ∨ Own views outputs here l :=
  (ViewName.passes_or_inside houtput hl).imp .inr .inr

theorem stat_output_of_agree
    (h : Agree here (Ways views outputs here) (Own views outputs here) disk disk')
    (houtput : ViewName.path? outputs name = some output) : disk'.stat output = disk.stat output :=
  h.stat (fun _ hl ↦ agreed_of_passes_output houtput
      (Path.passes_of_mem_trail (Path.mem_trail_of_mem_way hl)))
    (.inr (ViewName.inside_of_path? houtput))

theorem exists_parent?_of_path? (houtput : ViewName.path? outputs name = some output) :
    ∃ directory, output.parent? = some directory := by
  obtain ⟨hvalid, rfl⟩ := ViewName.path?_eq_some.mp houtput
  obtain ⟨step, hstep⟩ := List.exists_mem_of_ne_nil _ (ViewName.steps_ne_nil name)
  have hname : step ∈ (outputs.join (ViewName.relativePath name)).names := by
    rw [Path.names_join (ViewName.isAbsolute_relativePath hvalid),
      ViewName.names_relativePath hvalid]
    exact List.mem_append_right _ hstep
  exact Option.ne_none_iff_exists'.mp fun hnone ↦
    (ViewName.isStep_of_mem_steps hvalid hstep).2.1 (Path.eq_dot_of_parent? hnone step hname)

theorem confined_writeOutput {text : Text} (houtput : ViewName.path? outputs name = some output) :
    Confined here (Ways views outputs here) (Own views outputs here) (writeOutput output text) := by
  obtain ⟨directory, hdirectory⟩ := exists_parent?_of_path? houtput
  have hpasses : ∀ l, directory.Passes here l →
      Ways views outputs here l ∨ Own views outputs here l := fun l hl ↦
    agreed_of_passes_output houtput
      (hl.of_prefix (Path.isAbsolute_of_parent? hdirectory) (Path.names_of_parent? hdirectory))
  rw [writeOutput, hdirectory]
  refine confined_bind (confined_makeDirectories hpasses) fun _ ↦ ?_
  refine confined_bind (confined_draft hpasses) fun file ↦ ?_
  exact confined_publish file fun l ↦ agreed_of_passes_output houtput

theorem grows_writeOutput {text : Text} (houtput : ViewName.path? outputs name = some output)
    (hhere : disk.here = here) :
    disk.Grows (outputs.Around here) (fun l _ ↦ Location.Inside (outputs.goal here) l)
      ((writeOutput output text).run.run disk).2 := by
  refine (adds_writeOutput houtput disk hhere).mono (fun _ h ↦ h) ?_
  rintro l content ⟨rfl, -⟩
  exact ViewName.inside_of_path? houtput

/-- Loading a view looks at its source and its output file, and may write the output file. -/
theorem keepsTo_load (available : Capabilities) (name : Text) :
    KeepsTo views outputs (load available name).run := by
  intro engine here disk disk' hrooted hagree
  cases hsource : ViewName.path? views name with
  | none =>
    have hnone : engine.sourcePath? name = none := (hrooted.sourcePath? name).trans hsource
    exact ⟨_, _, _, _, run_load_nameless available hnone disk,
      run_load_nameless available hnone disk', hrooted, hagree, .refl disk⟩
  | some source =>
    have hs : engine.sourcePath? name = some source := (hrooted.sourcePath? name).trans hsource
    obtain ⟨output, ho⟩ := exists_outputPath? hs
    have houtput : ViewName.path? outputs name = some output :=
      (hrooted.outputPath? name).symm.trans ho
    have hstat := stat_source_of_agree hagree hsource
    have hreuse : ∀ modified, engine.reusableOutput? output modified disk'
        = engine.reusableOutput? output modified disk :=
      fun _ ↦ reusableOutput?_congr (stat_output_of_agree hagree houtput)
    have hexpand : engine.plain.expandSource available name source disk'
        = engine.plain.expandSource available name source disk := plain_expandSource_congr hstat
    have hrun := run_load_of_source available hs ho disk
    have hrun' := run_load_of_source available hs ho disk'
    rw [hstat] at hrun'
    simp only [hreuse, hexpand] at hrun'
    rcases hnode : disk.stat source with fault | node
    · rw [hnode] at hrun hrun'
      cases fault <;> exact ⟨_, _, _, _, hrun, hrun', hrooted, hagree, .refl disk⟩
    · rw [hnode] at hrun hrun'
      have hnoted := hrooted.noteSource hsource node.modified
      dsimp only at hrun hrun'
      cases hr : engine.reusableOutput? output node.modified disk with
      | some text =>
        rw [hr] at hrun hrun'
        exact ⟨_, _, _, _, hrun, hrun', hnoted, hagree, .refl disk⟩
      | none =>
        rw [hr] at hrun hrun'
        cases he : engine.plain.expandSource available name source disk with
        | error fault =>
          rw [he] at hrun hrun'
          exact ⟨_, _, _, _, hrun, hrun', hnoted, hagree, .refl disk⟩
        | ok text =>
          rw [he] at hrun hrun'
          exact ⟨_, _, _, _, hrun, hrun', hnoted,
            (confined_writeOutput houtput disk disk' hagree).2,
            grows_writeOutput houtput hagree.start⟩

/-! ## Rendering -/

theorem keepsTo_template (available : Capabilities) (name : Text) :
    KeepsTo views outputs (template available name) := by
  rw [template]
  refine keepsTo_bind keepsTo_get fun engine ↦ ?_
  cases engine.parsed.get? name with
  | some t => exact keepsTo_pure _
  | none =>
    refine keepsTo_bind (keepsTo_load available name) fun found ↦ ?_
    rcases found with fault | _ | text
    · exact keepsTo_pure _
    · exact keepsTo_pure _
    · dsimp only
      cases Template.parse text with
      | error kind => exact keepsTo_pure _
      | ok t =>
        refine keepsTo_bind (keepsTo_modify fun engine hrooted ↦ ?_) fun _ ↦ keepsTo_pure _
        exact ⟨hrooted.views_eq, hrooted.outputs_eq, hrooted.loaded⟩

/-- Whatever templates a rendering asks for, their names lead below the directories. -/
theorem keepsTo_run (available : Capabilities) (rendering : Rendering α) :
    KeepsTo views outputs (rendering.run (template available)) := by
  induction rendering with
  | done a => exact keepsTo_pure a
  | fetch name next ih => exact keepsTo_bind (keepsTo_template available name) ih

/-- The sources that are compared with their dates are all below the directory of views. -/
theorem keepsTo_reloadChanged : KeepsTo views outputs reloadChanged := by
  intro engine here disk disk' hrooted hagree
  have hrun : ∀ disk, (reloadChanged.run engine).run disk
      = (((), if engine.loaded.any fun entry ↦ hasChanged entry.2 disk then engine.forget
          else engine), disk) := fun _ ↦ rfl
  have hchanged : ∀ entry ∈ engine.loaded, hasChanged entry.2 disk' = hasChanged entry.2 disk := by
    intro entry hentry
    rw [hasChanged, hasChanged, Disk.modified, Disk.modified,
      stat_source_of_agree hagree (hrooted.loaded entry hentry)]
  have hany : (engine.loaded.any fun entry ↦ hasChanged entry.2 disk')
      = engine.loaded.any fun entry ↦ hasChanged entry.2 disk := by
    rw [Bool.eq_iff_iff, List.any_eq_true, List.any_eq_true]
    exact exists_congr fun entry ↦ and_congr_right fun hentry ↦ by rw [hchanged entry hentry]
  have hkept : Rooted views outputs (if engine.loaded.any fun entry ↦ hasChanged entry.2 disk
      then engine.forget else engine) := by
    split
    · exact hrooted.forget
    · exact hrooted
  exact ⟨_, _, _, _, hrun disk, (hrun disk').trans (by rw [hany]), hkept, hagree, .refl disk⟩

theorem keepsTo_render (available : Capabilities) (name : Text) (data : ViewData) :
    KeepsTo views outputs (render available name data) := by
  rw [render]
  refine keepsTo_bind keepsTo_reloadChanged fun _ ↦ ?_
  refine keepsTo_bind (keepsTo_template available name) fun answer ↦ ?_
  cases answer with
  | error fault => exact keepsTo_pure _
  | ok t =>
    refine keepsTo_bind keepsTo_get fun engine ↦ ?_
    refine keepsTo_bind (keepsTo_run available _) fun page ↦ ?_
    refine keepsTo_bind (keepsTo_modify fun engine hrooted ↦ ?_) fun _ ↦ keepsTo_pure _
    exact ⟨hrooted.views_eq, hrooted.outputs_eq, hrooted.loaded⟩

theorem keepsTo_compiles (available : Capabilities) (name : Text) :
    KeepsTo views outputs (compiles available name) := by
  rw [compiles]
  refine keepsTo_bind keepsTo_reloadChanged fun _ ↦ ?_
  exact keepsTo_bind (keepsTo_template available name) fun _ ↦ keepsTo_pure _

/-! ## Engines that there can be -/

/-- The engines that there can be for two directories: an engine begins, and then one thing is done
with it after the other, on whatever disk there is by then. -/
inductive Reached (views outputs : Path) (registry : Directive.Registry) : ViewEngine → Prop
  | new (disk : Disk) : Reached views outputs registry ((new views outputs registry).run disk).1
  | render {engine : ViewEngine} (available : Capabilities) (name : Text) (data : ViewData)
    (disk : Disk) (h : Reached views outputs registry engine) :
    Reached views outputs registry (((render available name data).run engine).run disk).1.2
  | compiles {engine : ViewEngine} (available : Capabilities) (name : Text) (disk : Disk)
    (h : Reached views outputs registry engine) :
    Reached views outputs registry (((compiles available name).run engine).run disk).1.2
  | invalidate {engine : ViewEngine} (disk : Disk) (h : Reached views outputs registry engine) :
    Reached views outputs registry ((ViewEngine.invalidate.run engine).run disk).1.2
  | configure {engine : ViewEngine} (f : Template.Extensions → Template.Extensions)
    (h : Reached views outputs registry engine) :
    Reached views outputs registry (engine.configure f)

theorem KeepsTo.rooted {action : EngineAction α} (h : KeepsTo views outputs action)
    (hrooted : Rooted views outputs engine) (disk : Disk) :
    Rooted views outputs ((action.run engine).run disk).1.2 := by
  obtain ⟨_, _, _, _, hrun, -, hkept, -⟩ := h engine disk.here disk disk hrooted (.refl rfl)
  rw [hrun]
  exact hkept

theorem Reached.rooted {registry : Directive.Registry}
    (h : Reached views outputs registry engine) : Rooted views outputs engine := by
  induction h with
  | new disk => exact ⟨rfl, rfl, fun _ hentry ↦ (nomatch hentry)⟩
  | render available name data disk _ ih =>
    exact (keepsTo_render available name data).rooted ih disk
  | compiles available name disk _ ih => exact (keepsTo_compiles available name).rooted ih disk
  | invalidate disk _ ih => exact ⟨ih.views_eq, ih.outputs_eq, fun _ hentry ↦ (nomatch hentry)⟩
  | configure f _ ih => exact ⟨ih.views_eq, ih.outputs_eq, fun _ hentry ↦ (nomatch hentry)⟩

end ViewEngine

open ViewEngine in
/-- **View names.** Exactly the names without an odd segment lead to files, each to its own, and
these are below the engine's directories. Loading a view comes to what its source and its output
file say; and whatever an engine is asked for, which templates ever name one another, it looks at
nothing but the two directories and the ways to them, and writes files below that of outputs. -/
theorem viewNames_leadBelow (views outputs : Path) (registry : Directive.Registry) :
    (∀ engine : ViewEngine, ViewName.LeadBelow engine.views engine.sourcePath? ∧
      ViewName.LeadBelow engine.outputs engine.outputPath?) ∧
    (∀ (engine : ViewEngine) available name disk disk',
      (∀ source, engine.sourcePath? name = some source → disk'.stat source = disk.stat source) →
      (∀ output, engine.outputPath? name = some output → disk'.stat output = disk.stat output) →
      (((load available name).run.run engine).run disk').1
        = (((load available name).run.run engine).run disk).1) ∧
    (∀ engine, Reached views outputs registry engine → Rooted views outputs engine) ∧
    ∀ available name data, KeepsTo views outputs (load available name).run ∧
      KeepsTo views outputs (render available name data) ∧
      KeepsTo views outputs (compiles available name) :=
  ⟨fun engine ↦ ⟨ViewName.leadBelow engine.views, ViewName.leadBelow engine.outputs⟩,
    fun _ _ _ _ _ hsource houtput ↦ load_congr hsource houtput,
    fun _ hreached ↦ hreached.rooted,
    fun available name data ↦ ⟨keepsTo_load available name, keepsTo_render available name data,
      keepsTo_compiles available name⟩⟩

/-! ### A secret next to the directories

A file that no view name leads to is laid where names with `..` would look for it. -/

/-- The disk with one view, and with a file next to the directory of views. -/
def secretDisk : Disk :=
  oneViewDisk.put ["secret.jinja".toList] (.file (encode "secret".toList) 1)

theorem node?_secretDisk {l : Location} (h : l ≠ ["secret.jinja".toList]) :
    secretDisk.node? l = oneViewDisk.node? l := by
  rw [secretDisk, node?_put _ _ _ _ (by decide), if_neg h]

theorem ne_secret_of_passes (name : Text) {l : Location} (hname : name ≠ "secret.jinja".toList)
    {p : Path} (hp : p.names = [name]) (hstart : p.start [] = []) (hstep : IsStep name)
    (hl : p.Passes [] l) : l ≠ ["secret.jinja".toList] := by
  obtain ⟨names, hprefix, rfl⟩ := hl
  rw [hp] at hprefix
  rw [hstart]
  rcases List.prefix_cons_iff.mp hprefix with rfl | ⟨rest, rfl, hrest⟩
  · simp
  · obtain rfl := List.prefix_nil.mp hrest
    rw [reached_step hstep]
    simpa using hname

theorem agree_secretDisk :
    Agree [] (ViewEngine.Ways (.ofString "/views") (.ofString "/out") [])
      (ViewEngine.Own (.ofString "/views") (.ofString "/out") []) oneViewDisk secretDisk where
  start := rfl
  start' := rfl
  clock := rfl
  kind l hl := by
    rw [kind, kind, node?_secretDisk]
    rcases hl with hl | hl
    · exact ne_secret_of_passes "views".toList (by decide) (by decide) rfl ⟨by decide, by decide⟩ hl
    · exact ne_secret_of_passes "out".toList (by decide) (by decide) rfl ⟨by decide, by decide⟩ hl
  node l hl := by
    refine node?_secretDisk ?_
    rintro rfl
    revert hl
    rw [ViewEngine.Own]
    decide

/-- With the secret there, the view is loaded and rendered as without it. -/
theorem viewNames_leadBelow_secretDisk :
    (∃ engine, ViewEngine.Reached (.ofString "/views") (.ofString "/out") .empty engine ∧
      (((ViewEngine.render .none "home".toList []).run engine).run secretDisk).1
        = (((ViewEngine.render .none "home".toList []).run engine).run oneViewDisk).1) ∧
    (((ViewEngine.load .none "home".toList).run.run renderedOnce.engine).run secretDisk).1 =
      (((ViewEngine.load .none "home".toList).run.run renderedOnce.engine).run oneViewDisk).1 := by
  obtain ⟨-, hload, hrooted, hkeeps⟩ :=
    viewNames_leadBelow (.ofString "/views") (.ofString "/out") .empty
  refine ⟨⟨renderedOnce.engine, .render _ _ _ _ (.new _), ?_⟩, ?_⟩
  · have hreached : ViewEngine.Reached (.ofString "/views") (.ofString "/out") .empty
        renderedOnce.engine := .render _ _ _ _ (.new _)
    obtain ⟨-, hrender, -⟩ := hkeeps .none "home".toList []
    obtain ⟨_, _, _, _, hrun, hrun', -⟩ :=
      hrender _ _ _ _ (hrooted _ hreached) agree_secretDisk
    rw [hrun, hrun']
  · refine hload _ _ _ _ _ (fun source hsource ↦ ?_) fun output houtput ↦ ?_
    · exact ViewEngine.stat_source_of_agree agree_secretDisk hsource
    · exact ViewEngine.stat_output_of_agree agree_secretDisk houtput

end CompiledViews
