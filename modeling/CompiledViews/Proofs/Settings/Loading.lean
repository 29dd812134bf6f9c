import CompiledViews.Proofs.Failing
import CompiledViews.Settings.Load

/-!
# Where settings come from

Settings that have been loaded are those of one settings file, the one that was named or the nearest
one, with the values of variables put in; or there is no such file, and they are the defaults for
the working directory. The command line has its say afterwards, and changes nothing but what it
speaks of.
-/

namespace CompiledViews.Settings

variable {path : Option Path} {p : Path} {overrides : Overrides} {environment : Environment}
  {disk : Disk} {settings : Settings} {raw file : File}

/-! ## Settings files -/

/-- The settings file that is loaded: the one that is named, or else the nearest one. -/
def file? (path : Option Path) (disk : Disk) : Option Path := path.or (discover? disk)

/-- Whether a path is that of a settings file that says this. -/
def File.WrittenAt (file : File) (path : Path) (disk : Disk) : Prop :=
  ∃ document, disk.readText path = .ok document ∧ File.parse? document = some file

def File.rootAt (file : File) (path : Path) : Path :=
  (path.parent?.getD (.ofString ".")).join ⟨file.root.getD ['.']⟩

theorem File.directories_resolve (file : File) (path : Path) :
    (file.resolve path).directories = (file.resolve path).relative.resolve (file.rootAt path) := rfl

theorem File.controllers_resolve (file : File) (path : Path) :
    (file.resolve path).controllers = file.controllers.map fun entry ↦
      ⟨entry.1, (file.rootAt path).join ⟨entry.2⟩⟩ := rfl

theorem loadFile_eq_ok (h : loadFile environment p disk = .ok settings) :
    ∃ raw file : File, raw.WrittenAt p disk ∧ raw.expand environment = .ok file ∧
      settings = file.resolve p ∧ settings.check = .ok () := by
  rw [loadFile] at h
  obtain ⟨document, hdocument, h⟩ := bind_eq_ok_iff.mp h
  dsimp only at h
  split at h
  · next raw hraw =>
    obtain ⟨_, ⟨⟩, h⟩ := bind_eq_ok_iff.mp h
    obtain ⟨file, hfile, h⟩ := bind_eq_ok_iff.mp h
    obtain ⟨_, hcheck, h⟩ := bind_eq_ok_iff.mp h
    cases h
    exact ⟨raw, file, ⟨document, mapError_eq_ok_iff.mp hdocument, hraw⟩, hfile, rfl,
      mapError_eq_ok_iff.mp hcheck⟩
  · cases h

/-- Settings come from a settings file, or are the defaults where there is none. -/
theorem loadBase_cases (h : loadBase path environment disk = .ok settings) :
    (∃ p, file? path disk = some p ∧ loadFile environment p disk = .ok settings) ∨
    file? path disk = none ∧ settings = ofRoot (pathOf disk.here) := by
  cases path with
  | some p =>
    rw [loadBase] at h
    split at h
    · exact .inl ⟨p, rfl, h⟩
    · cases h
  | none =>
    rw [loadBase] at h
    split at h
    · next p hp => exact .inl ⟨p, hp, h⟩
    · next hnone => exact .inr ⟨hnone, (Except.ok.inj h).symm⟩

theorem loadBase_eq_ok (h : loadBase path environment disk = .ok settings) :
    (∃ (p : Path) (raw file : File), file? path disk = some p ∧ raw.WrittenAt p disk ∧
      raw.expand environment = .ok file ∧ settings = file.resolve p) ∨
    file? path disk = none ∧ settings = ofRoot (pathOf disk.here) := by
  rcases loadBase_cases h with ⟨p, hp, hload⟩ | hdefault
  · obtain ⟨raw, file, hwritten, hfile, hsettings, -⟩ := loadFile_eq_ok hload
    exact .inl ⟨p, raw, file, hp, hwritten, hfile, hsettings⟩
  · exact .inr hdefault

theorem File.WrittenAt.unique (h : raw.WrittenAt p disk) (h' : file.WrittenAt p disk) :
    raw = file := by
  obtain ⟨document, hdocument, hparse⟩ := h
  obtain ⟨document', hdocument', hparse'⟩ := h'
  obtain rfl := Except.ok.inj (hdocument.symm.trans hdocument')
  exact Option.some.inj (hparse.symm.trans hparse')

theorem eq_resolve_of_loadBase (hfile : file? path disk = some p) (hwritten : raw.WrittenAt p disk)
    (h : loadBase path environment disk = .ok settings) :
    ∃ file : File, raw.expand environment = .ok file ∧ settings = file.resolve p := by
  rcases loadBase_eq_ok h with ⟨q, other, file, hq, hother, hexpand, rfl⟩ | ⟨hnone, -⟩
  · obtain rfl := Option.some.inj (hfile.symm.trans hq)
    obtain rfl := hwritten.unique hother
    exact ⟨file, hexpand, rfl⟩
  · rw [hfile] at hnone
    cases hnone

theorem load_eq_ok : load path overrides environment disk = .ok settings ↔
    ∃ base, loadBase path environment disk = .ok base ∧ base.override overrides = settings :=
  map_eq_ok_iff

theorem directories_override {root : Path}
    (h : settings.directories = settings.relative.resolve root) (overrides : Overrides) :
    (settings.override overrides).directories =
      let directories := settings.relative.resolve (overrides.root.getD root)
      ⟨directories.root, overrides.views.getD directories.views,
        overrides.outputs.getD directories.outputs⟩ := by
  rw [override]
  cases overrides.root with
  | none =>
    dsimp only [Option.getD_none]
    rw [h]
  | some other => rfl

end CompiledViews.Settings
