import CompiledViews.Proofs.Settings.Absolute

/-!
# Another root

A root that is given on the command line takes the place of the one in the settings file, as if it
had been written there, for the directories that are relative to the root. Data files are relative
to the root too, but they have been resolved by the time the command line has its say: they stay
below the root of the file.
-/

namespace CompiledViews

/-! ## Paths -/

/-- A relative path appended to two others makes the same path of them just if they are the same. -/
theorem Path.components_join_inj {base other p : Path} (hother : other.isAbsolute = true)
    (hp : p.isAbsolute = false) :
    (base.join p).components = (other.join p).components ↔ base.components = other.components := by
  have hother' : other.spelling ≠ [] := by
    intro hnil
    rw [isAbsolute, hnil] at hother
    cases hother
  by_cases hbase : base.spelling = []
  · -- an empty path is relative, and so is what is made of it
    have hrelative : base.isAbsolute = false := by rw [isAbsolute, hbase]; rfl
    have hne : ∀ {q q' : Path}, q.isAbsolute = false → q'.isAbsolute = true →
        q.components ≠ q'.components := by
      intro q q' hq hq' heq
      have hroot := root_mem_components.mpr hq'
      rw [← heq, root_mem_components, hq] at hroot
      cases hroot
    exact iff_of_false
      (hne ((isAbsolute_join hp).trans hrelative) ((isAbsolute_join hp).trans hother))
      (hne hrelative hother)
  · rw [components_join hbase hp, components_join hother' hp, List.append_left_inj]

namespace Settings

variable {path : Option Path} {p root : Path} {overrides : Overrides} {environment : Environment}
  {disk disk' : Disk} {settings settings' : Settings} {raw file : File}

def File.withRoot (file : File) (root : Path) : File := { file with root := some root.spelling }

/-- A root that refers to no variables is put in as it is, and everything else as before. -/
theorem File.expand_withRoot (h : raw.expand environment = .ok file)
    (hroot : Settings.expand environment root.spelling = .ok root.spelling) :
    (raw.withRoot root).expand environment = .ok (file.withRoot root) := by
  rw [File.expand] at h
  obtain ⟨root', -, h⟩ := bind_eq_ok_iff.mp h
  obtain ⟨views, hviews, h⟩ := bind_eq_ok_iff.mp h
  obtain ⟨outputs, houtputs, h⟩ := bind_eq_ok_iff.mp h
  obtain ⟨controllers, hcontrollers, h⟩ := bind_eq_ok_iff.mp h
  cases h
  have hsame : expandOptional environment "templates.root" (some root.spelling)
      = .ok (some root.spelling) := by
    rw [expandOptional, expandField, hroot]
    rfl
  rw [File.expand, withRoot, hsame, hviews, houtputs, hcontrollers]
  rfl

theorem File.rootAt_withRoot (file : File) (p : Path) (h : root.isAbsolute = true) :
    (file.withRoot root).rootAt p = root := Path.join_of_isAbsolute h

theorem load_with (hload : load path overrides environment disk = .ok settings)
    (hviews : overrides.views = none) (houtputs : overrides.outputs = none)
    (views outputs : Option Path) :
    load path { overrides with views, outputs } environment disk = .ok { settings with
      directories := { settings.directories with
        views := views.getD settings.directories.views
        outputs := outputs.getD settings.directories.outputs } } := by
  obtain ⟨base, hbase, rfl⟩ := load_eq_ok.mp hload
  refine load_eq_ok.mpr ⟨base, hbase, ?_⟩
  rw [override, override, hviews, houtputs]
  rfl

/-- The data files of two roots are the same if the roots are, or if no root matters to them. -/
theorem map_components_join_iff {other : Path} (hroot : root.isAbsolute = true)
    (controllers : List (List Text × Text)) :
    (controllers.map fun entry ↦ (other.join ⟨entry.2⟩).components)
        = (controllers.map fun entry ↦ (root.join ⟨entry.2⟩).components) ↔
      other.components = root.components ∨
        ∀ entry ∈ controllers, (⟨entry.2⟩ : Path).isAbsolute = true := by
  rw [List.map_inj_left]
  constructor
  · intro h
    by_cases hsame : other.components = root.components
    · exact .inl hsame
    · refine .inr fun entry hentry ↦ ?_
      by_contra hrelative
      rw [Bool.not_eq_true] at hrelative
      exact hsame ((Path.components_join_inj hroot hrelative).mp (h entry hentry))
  · rintro (hsame | habsolute) entry hentry
    · by_cases hdata : (⟨entry.2⟩ : Path).isAbsolute = true
      · rw [Path.join_of_isAbsolute hdata, Path.join_of_isAbsolute hdata]
      · exact (Path.components_join_inj hroot (Bool.not_eq_true _ ▸ hdata)).mpr hsame
    · rw [Path.join_of_isAbsolute (habsolute entry hentry),
        Path.join_of_isAbsolute (habsolute entry hentry)]

/-- A root given on the command line makes the same directories as one that is written in the file.
It makes the same data files only if the file has that root already, or if none of them is relative
to a root. What more the command line says about directories replaces just these, in either case. -/
theorem load_reroot (hfile : file? path disk = some p) (hfile' : file? path disk' = some p)
    (hwritten : raw.WrittenAt p disk) (hwritten' : (raw.withRoot root).WrittenAt p disk')
    (hroot : root.isAbsolute = true)
    (hplain : expand environment root.spelling = .ok root.spelling)
    (hload : load path { root := some root } environment disk = .ok settings)
    (hload' : load path {} environment disk' = .ok settings') :
    settings.directories = settings'.directories ∧ settings.directories.root = root ∧
    (∃ file, raw.expand environment = .ok file ∧
      settings.controllers
        = file.controllers.map (fun entry ↦ ⟨entry.1, (file.rootAt p).join ⟨entry.2⟩⟩) ∧
      settings'.controllers = file.controllers.map (fun entry ↦ ⟨entry.1, root.join ⟨entry.2⟩⟩) ∧
      (settings.controllers.map (·.data.components)
          = settings'.controllers.map (·.data.components) ↔
        (file.rootAt p).components = root.components ∨
          ∀ entry ∈ file.controllers, (⟨entry.2⟩ : Path).isAbsolute = true)) ∧
    ∀ views outputs,
      load path { root := some root, views, outputs } environment disk = .ok { settings with
        directories := { settings.directories with
          views := views.getD settings.directories.views
          outputs := outputs.getD settings.directories.outputs } } ∧
      load path { views, outputs } environment disk' = .ok { settings' with
        directories := { settings'.directories with
          views := views.getD settings'.directories.views
          outputs := outputs.getD settings'.directories.outputs } } := by
  obtain ⟨base, hbase, hsettings⟩ := load_eq_ok.mp hload
  obtain ⟨base', hbase', hsettings'⟩ := load_eq_ok.mp hload'
  -- on both disks the settings are those of the file at the same path
  obtain ⟨file, hexpand, rfl⟩ := eq_resolve_of_loadBase hfile hwritten hbase
  obtain ⟨file', hexpand', rfl⟩ := eq_resolve_of_loadBase hfile' hwritten' hbase'
  obtain rfl := Except.ok.inj ((File.expand_withRoot hexpand hplain).symm.trans hexpand')
  have hdirectories : settings.directories = file.relative.resolve root := by
    rw [← hsettings, directories_override (file.directories_resolve p)]
    rfl
  have hdirectories' : settings'.directories = file.relative.resolve root := by
    rw [← hsettings', directories_override ((file.withRoot root).directories_resolve p),
      file.rootAt_withRoot p hroot]
    rfl
  have hdata : settings.controllers
      = file.controllers.map fun entry ↦ ⟨entry.1, (file.rootAt p).join ⟨entry.2⟩⟩ := by
    rw [← hsettings]
    exact file.controllers_resolve p
  have hdata' : settings'.controllers
      = file.controllers.map fun entry ↦ ⟨entry.1, root.join ⟨entry.2⟩⟩ := by
    have hresolved := (file.withRoot root).controllers_resolve p
    rw [file.rootAt_withRoot p hroot] at hresolved
    rw [← hsettings']
    exact hresolved
  refine ⟨hdirectories.trans hdirectories'.symm, by rw [hdirectories]; rfl, ?_, ?_⟩
  · refine ⟨file, hexpand, hdata, hdata', ?_⟩
    rw [hdata, hdata', List.map_map, List.map_map]
    exact map_components_join_iff hroot file.controllers
  · intro views outputs
    exact ⟨load_with hload rfl rfl views outputs, load_with hload' rfl rfl views outputs⟩

/-! ### A root of its own

The settings file in the working directory, with a root somewhere else. -/

/-- A settings file with a root, and a data file that is relative to it. -/
def rootedDocument (root : String) : String :=
  "[templates]\nroot = \"" ++ root ++ "\"\n\n" ++ homeDocument

def rootedFile (root : String) : File where
  root := some root.toList
  controllers := [(["home".toList], "home.json".toList)]

theorem writtenAt_rootedFile : (rootedFile "/srv/theme").WrittenAt (.ofString "/vwt/site/vw.toml")
    (siteDisk (rootedDocument "/srv/theme")) :=
  ⟨(rootedDocument "/srv/theme").toList, by decide +kernel, by with_unfolding_all rfl⟩

theorem expand_rootedFile :
    (rootedFile "/srv/theme").expand [] = .ok (rootedFile "/srv/theme") := by
  cbv

theorem load_reroot_siteDisk : ∃ settings settings',
    load none { root := some (.ofString "/srv/other") } [] (siteDisk (rootedDocument "/srv/theme"))
      = .ok settings ∧
    load none {} [] (siteDisk (rootedDocument "/srv/other")) = .ok settings' ∧
    settings.directories = settings'.directories ∧
    settings.controllers.map (·.data.components)
      ≠ settings'.controllers.map (·.data.components) := by
  have hwritten' : ((rootedFile "/srv/theme").withRoot (.ofString "/srv/other")).WrittenAt
      (.ofString "/vwt/site/vw.toml") (siteDisk (rootedDocument "/srv/other")) :=
    ⟨(rootedDocument "/srv/other").toList, by decide +kernel, by with_unfolding_all rfl⟩
  have hloads : (load none { root := some (.ofString "/srv/other") } []
        (siteDisk (rootedDocument "/srv/theme"))).toOption.isSome = true ∧
      (load none {} [] (siteDisk (rootedDocument "/srv/other"))).toOption.isSome = true := by
    decide +kernel
  obtain ⟨settings, hsettings⟩ := Option.isSome_iff_exists.mp hloads.1
  obtain ⟨settings', hsettings'⟩ := Option.isSome_iff_exists.mp hloads.2
  have hload := toOption_eq_some_iff.mp hsettings
  have hload' := toOption_eq_some_iff.mp hsettings'
  obtain ⟨hdirectories, -, ⟨file, hexpand, -, -, hdata⟩, -⟩ :=
    load_reroot (by decide +kernel) (by decide +kernel) writtenAt_rootedFile hwritten' (by decide)
      (by decide +kernel) hload hload'
  obtain rfl := Except.ok.inj (expand_rootedFile.symm.trans hexpand)
  exact ⟨settings, settings', hload, hload', hdirectories, mt hdata.mp (by decide +kernel)⟩

/-- The data file is looked for below the root of the file, in spite of the command line. -/
theorem stale_siteDisk :
    (load none { root := some (.ofString "/srv/other") } []
        (siteDisk (rootedDocument "/srv/theme"))).toOption.map (·.controllers)
      = some [⟨["home".toList], .ofString "/srv/theme/home.json"⟩] ∧
    (load none {} [] (siteDisk (rootedDocument "/srv/other"))).toOption.map (·.controllers)
      = some [⟨["home".toList], .ofString "/srv/other/home.json"⟩] := by
  decide +kernel

end Settings

end CompiledViews
