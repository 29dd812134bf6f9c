import CompiledViews.Proofs.Disk.Trail
import CompiledViews.Proofs.Path.Components
import CompiledViews.Proofs.Settings.Loading
import CompiledViews.Site.Request

/-!
# Absolute settings

Whether the paths in settings are absolute depends on how the settings file was named. A file that
was searched for, or named by an absolute path, has an absolute directory, and so has everything
that is relative to it. A file that was named by a relative path has a relative directory, and then
only those paths are absolute that were said so, in the file or on the command line.

A relative root takes in no absolute path at all, so a site with such a root renders nothing that is
named by an absolute path.
-/

namespace CompiledViews

/-! ## Paths -/

theorem Path.exists_parent? {p : Path} {disk : Disk} {t : Text} (habsolute : p.isAbsolute = true)
    (h : disk.readText p = .ok t) : ∃ parent, p.parent? = some parent := by
  cases hparent : p.parent? with
  | some parent => exact ⟨parent, rfl⟩
  | none =>
    -- the path leads nowhere but to the root, which is a directory
    have hgoal : p.goal disk.here = [] := by
      rw [goal, start, if_pos habsolute, Disk.reached_dots (eq_dot_of_parent? hparent)]
    obtain ⟨content, hread, -⟩ := bind_eq_ok_iff.mp h
    obtain ⟨time, hstat⟩ := Disk.read_eq_ok.mp hread
    have hnode := (Disk.stat_eq_ok hstat).2
    rw [hgoal] at hnode
    cases hnode

theorem Path.isWithin_of_relative {candidate root : Path} (hcandidate : candidate.isAbsolute = true)
    (hroot : root.isAbsolute = false) (hne : root.components ≠ []) :
    candidate.isWithin root = false := by
  obtain ⟨c, rest, hcomponents⟩ := List.exists_cons_of_ne_nil hne
  obtain ⟨rest', hcandidate'⟩ : ∃ rest', candidate.components = .root :: rest' := by
    rw [components_eq, if_pos hcandidate]
    exact ⟨_, rfl⟩
  have hc : c ≠ .root := by
    rintro rfl
    have habsolute : root.isAbsolute = true :=
      root_mem_components.mp (hcomponents ▸ List.mem_cons_self)
    rw [habsolute] at hroot
    cases hroot
  have hstart : candidate.startsWith root = false := by
    rw [startsWith, hcomponents, hcandidate', List.isPrefixOf]
    simp [hc]
  rw [isWithin, hstart, Bool.false_and]

namespace Settings

variable {path : Option Path} {p : Path} {overrides : Overrides} {environment : Environment}
  {disk : Disk} {settings : Settings}

theorem isAbsolute_pathOf (location : Location) : (pathOf location).isAbsolute = true := rfl

theorem isAbsolute_of_discover? (h : discover? disk = some p) : p.isAbsolute = true := by
  obtain ⟨directory, hdirectory, rfl⟩ := List.mem_map.mp (List.mem_of_find?_eq_some h)
  have habsolute := (Path.names_of_mem_ancestors hdirectory).1.trans (isAbsolute_pathOf disk.here)
  exact Path.isAbsolute_join_iff.mpr (.inr habsolute)

/-! ## What is absolute -/

/-- Whether a value, if there is one, is an absolute path. -/
def saysAbsolute (value : Option Text) : Bool := value.any fun t ↦ (⟨t⟩ : Path).isAbsolute

theorem saysAbsolute_getD {default : Text} (h : (⟨default⟩ : Path).isAbsolute = false)
    (value : Option Text) : (⟨value.getD default⟩ : Path).isAbsolute = saysAbsolute value := by
  cases value with
  | none => exact h
  | some t => rfl

/-- Whether whatever paths the command line gives are absolute, as they are after they have been
taken from the working directory. -/
structure Overrides.Absolute (overrides : Overrides) : Prop where
  root : ∀ p, overrides.root = some p → p.isAbsolute = true
  views : ∀ p, overrides.views = some p → p.isAbsolute = true
  outputs : ∀ p, overrides.outputs = some p → p.isAbsolute = true

/-- Whether all paths in settings are absolute. -/
structure Absolute (settings : Settings) : Prop where
  root : settings.directories.root.isAbsolute = true
  views : settings.directories.views.isAbsolute = true
  outputs : settings.directories.outputs.isAbsolute = true
  data : ∀ entry ∈ settings.controllers, entry.data.isAbsolute = true

theorem isAbsolute_getD {override? : Option Path} {p : Path}
    (h : ∀ q, override? = some q → q.isAbsolute = true) :
    (override?.getD p).isAbsolute = true ↔ override?.isSome = true ∨ p.isAbsolute = true := by
  cases override? with
  | none => simp
  | some q => simp [h q rfl]

/-- What of the directories is absolute, for settings that have not been overridden yet. -/
theorem isAbsolute_override {root : Path}
    (h : settings.directories = settings.relative.resolve root) (hoverrides : overrides.Absolute) :
    let directories := (settings.override overrides).directories
    (directories.root.isAbsolute = true ↔
      overrides.root.isSome = true ∨ root.isAbsolute = true) ∧
    (directories.views.isAbsolute = true ↔ overrides.views.isSome = true ∨
      saysAbsolute settings.relative.views = true ∨ directories.root.isAbsolute = true) ∧
    (directories.outputs.isAbsolute = true ↔ overrides.outputs.isSome = true ∨
      saysAbsolute settings.relative.outputs = true ∨ directories.root.isAbsolute = true) := by
  dsimp only
  rw [directories_override h]
  dsimp only [RelativeDirectories.resolve]
  refine ⟨isAbsolute_getD hoverrides.root, ?_, ?_⟩
  · rw [isAbsolute_getD hoverrides.views, Path.isAbsolute_join_iff, saysAbsolute_getD (by decide)]
  · rw [isAbsolute_getD hoverrides.outputs, Path.isAbsolute_join_iff,
      saysAbsolute_getD (by decide)]

/-- A root that is relative to an absolute path is absolute, and so is everything below it. -/
theorem absolute_override {root : Path} (h : settings.directories = settings.relative.resolve root)
    (hroot : root.isAbsolute = true)
    (hdata : ∀ entry ∈ settings.controllers, entry.data.isAbsolute = true)
    (hoverrides : overrides.Absolute) : (settings.override overrides).Absolute := by
  obtain ⟨hroot', hviews, houtputs⟩ := isAbsolute_override h hoverrides
  have habsolute := hroot'.mpr (.inr hroot)
  exact ⟨habsolute, hviews.mpr (.inr (.inr habsolute)), houtputs.mpr (.inr (.inr habsolute)), hdata⟩

theorem isAbsolute_rootAt {file : File} {parent : Path} (h : p.parent? = some parent) :
    (file.rootAt p).isAbsolute = true ↔ saysAbsolute file.root = true ∨ p.isAbsolute = true := by
  rw [File.rootAt, h, Option.getD_some, Path.isAbsolute_join_iff, saysAbsolute_getD (by decide),
    Path.isAbsolute_of_parent? h]

theorem isAbsolute_rootAt_of_relative (file : File) (h : p.isAbsolute = false) :
    (file.rootAt p).isAbsolute = saysAbsolute file.root := by
  have hbase : (p.parent?.getD (.ofString ".")).isAbsolute = false := by
    cases hparent : p.parent? with
    | none => rfl
    | some parent => exact (Path.isAbsolute_of_parent? hparent).trans h
  rw [Bool.eq_iff_iff, File.rootAt, Path.isAbsolute_join_iff, saysAbsolute_getD (by decide), hbase]
  simp

/-- Settings are absolute if the settings file was searched for or named by an absolute path. If it
was named by a relative path, just those paths are absolute that were said so on the command line or
in the file, and the directories below an absolute root; where the root is not among them, it takes
in no absolute path. -/
theorem load_isAbsolute (hload : load path overrides environment disk = .ok settings)
    (hoverrides : overrides.Absolute) :
    ((∀ p, path = some p → p.isAbsolute = true) → settings.Absolute) ∧
    (∀ p, path = some p → p.isAbsolute = false → ∃ raw file : File, raw.WrittenAt p disk ∧
      raw.expand environment = .ok file ∧
      (settings.directories.root.isAbsolute = true ↔
        overrides.root.isSome = true ∨ saysAbsolute file.root = true) ∧
      (settings.directories.views.isAbsolute = true ↔ overrides.views.isSome = true ∨
        saysAbsolute file.relative.views = true ∨ settings.directories.root.isAbsolute = true) ∧
      (settings.directories.outputs.isAbsolute = true ↔ overrides.outputs.isSome = true ∨
        saysAbsolute file.relative.outputs = true ∨ settings.directories.root.isAbsolute = true) ∧
      settings.controllers.map (·.data.isAbsolute)
        = file.controllers.map fun entry ↦
          (⟨entry.2⟩ : Path).isAbsolute || saysAbsolute file.root) ∧
    (settings.directories.root.isAbsolute = false → settings.directories.root.components ≠ [] →
      ∀ candidate : Path, candidate.isAbsolute = true →
        candidate.isWithin settings.directories.root = false) := by
  obtain ⟨base, hbase, rfl⟩ := load_eq_ok.mp hload
  refine ⟨fun hpath ↦ ?_, fun p hp hrelative ↦ ?_, fun hroot hne candidate hcandidate ↦
    Path.isWithin_of_relative hcandidate hroot hne⟩
  · rcases loadBase_eq_ok hbase with ⟨p, raw, file, hfile, hwritten, -, rfl⟩ | ⟨-, rfl⟩
    · have hp : p.isAbsolute = true := by
        cases path with
        | some named =>
          obtain rfl : named = p := Option.some.inj hfile
          exact hpath named rfl
        | none => exact isAbsolute_of_discover? hfile
      obtain ⟨document, hdocument, -⟩ := hwritten
      obtain ⟨parent, hparent⟩ := Path.exists_parent? hp hdocument
      have hroot : (file.rootAt p).isAbsolute = true := (isAbsolute_rootAt hparent).mpr (.inr hp)
      refine absolute_override (file.directories_resolve p) hroot (fun entry hentry ↦ ?_) hoverrides
      rw [file.controllers_resolve p] at hentry
      obtain ⟨written, -, rfl⟩ := List.mem_map.mp hentry
      exact Path.isAbsolute_join_iff.mpr (.inr hroot)
    · exact absolute_override rfl (isAbsolute_pathOf disk.here) (by simp [ofRoot]) hoverrides
  · rcases loadBase_eq_ok hbase with ⟨p', raw, file, hfile, hwritten, hexpand, rfl⟩ | ⟨hnone, -⟩
    · subst hp
      obtain rfl : p = p' := Option.some.inj hfile
      have hroot := isAbsolute_rootAt_of_relative file hrelative
      obtain ⟨hroot', hviews, houtputs⟩ :=
        isAbsolute_override (file.directories_resolve p) hoverrides
      rw [hroot] at hroot'
      refine ⟨raw, file, hwritten, hexpand, hroot', hviews, houtputs, ?_⟩
      -- the command line does not speak of data files
      change (file.resolve p).controllers.map (·.data.isAbsolute) = _
      rw [file.controllers_resolve p, List.map_map]
      refine List.map_congr_left fun entry _ ↦ ?_
      rw [Bool.eq_iff_iff, Bool.or_eq_true, ← hroot]
      exact Path.isAbsolute_join_iff
    · subst hp
      cases hnone

/-! ### A file in the working directory

The settings file in the working directory `/vwt/site`, where it is named without more ado. -/

/-- A disk whose working directory has a settings file. -/
def siteDisk (document : String) : Disk where
  nodes := [(["vwt".toList], .directory 1), (["vwt".toList, "site".toList], .directory 1),
    (["vwt".toList, "site".toList, fileName], .file (Disk.encode document.toList) 1)]
  clock := 1
  here := ["vwt".toList, "site".toList]

def homeDocument : String := "[[controllers]]\nviews = [\"home\"]\ndata = \"home.json\"\n"

theorem load_isAbsolute_siteDisk : ∃ settings,
    load (some ⟨fileName⟩) {} [] (siteDisk homeDocument) = .ok settings ∧
      settings.directories.root.isAbsolute = false ∧
      settings.controllers.map (·.data.isAbsolute) = [false] ∧
      Path.isWithin (.ofString "/vwt/site/home.html") settings.directories.root = false := by
  have hloaded : (load (some ⟨fileName⟩) {} [] (siteDisk homeDocument)).toOption.map
      (fun settings ↦ (settings.directories.root, settings.controllers.map (·.data.isAbsolute)))
      = some (.ofString ".", [false]) := by decide +kernel
  obtain ⟨settings, hsettings, hroot⟩ := Option.map_eq_some_iff.mp hloaded
  obtain ⟨hroot, hdata⟩ := Prod.mk.inj hroot
  have hload := toOption_eq_some_iff.mp hsettings
  obtain ⟨-, -, hwithin⟩ := load_isAbsolute hload ⟨nofun, nofun, nofun⟩
  have hrelative : settings.directories.root.isAbsolute = false := by
    rw [hroot]
    decide
  refine ⟨settings, hload, hrelative, hdata, hwithin hrelative ?_ _ (by decide)⟩
  rw [hroot]
  decide

/-- All that is in the settings of that file is relative to the working directory. -/
theorem relative_siteDisk :
    (load (some ⟨fileName⟩) {} [] (siteDisk homeDocument)).toOption.map
      (fun settings ↦ (settings.directories, settings.controllers))
      = some (⟨.ofString ".", .ofString "./views", .ofString "./.views_cache"⟩,
        [⟨["home".toList], .ofString "./home.json"⟩]) ∧
    (Path.ofString ".").isAbsolute = false := by
  decide +kernel

end Settings

end CompiledViews
