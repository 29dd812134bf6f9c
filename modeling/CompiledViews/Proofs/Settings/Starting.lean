import CompiledViews.Proofs.Settings.Rerooting
import CompiledViews.Site.Plan

/-!
# Settings that sites start with

Settings of a file are checked once, when they are loaded; planning a site for them tests the same
things again, each where it is needed: the filter where the built-in directives are registered, the
views and the format of a data file where its controller is made. The two sets of tests are spelled
differently. An extension that is missing is an empty one to the first and no format to the second,
and both refuse it, so neither of them lets anything pass that the other one would not.

In between the command line has its say, but none of what is tested is its business. Whatever has
been loaded can therefore be planned, and the controllers of the plan are those of the file.
-/

namespace CompiledViews

/-! ## Data files -/

theorem DataFormat.contains_dataExtensions (p : Path) :
    Settings.dataExtensions.contains (p.extension?.getD []) = (ofPath? p).isSome := by
  rw [ofPath?]
  cases p.extension? with
  | none => decide
  | some extension =>
    by_cases hjson : extension = "json".toList
    · subst hjson
      decide
    · by_cases hyaml : extension = "yaml".toList ∨ extension = "yml".toList
      · rcases hyaml with rfl | rfl <;> decide
      · dsimp only [Option.getD_some]
        rw [if_neg hjson, if_neg hyaml]
        refine Bool.eq_false_iff.mpr fun h ↦ ?_
        rw [List.contains_iff_mem, Settings.dataExtensions, List.mem_cons, List.mem_cons,
          List.mem_singleton] at h
        exact h.elim hjson hyaml

namespace DataSettings

/-- Whether a data file serves at least one view, none without a name, and has a known format. -/
structure Sound (entry : DataSettings) : Prop where
  views : entry.views ≠ []
  named : [] ∉ entry.views
  format : (DataFormat.ofPath? entry.data).isSome = true

def controller (entry : DataSettings) : Controller :=
  ⟨"data:".toList ++ entry.data.spelling, entry.views, .dataFile entry.data⟩

theorem Sound.ofDataFile {entry : DataSettings} (h : entry.Sound) :
    Controller.ofDataFile entry.views entry.data = .ok entry.controller := by
  rw [Controller.ofDataFile, if_neg (by simpa using h.views),
    if_neg (by simpa using Option.isSome_iff_ne_none.mp h.format), controller]

end DataSettings

/-- Controllers that exist already are registered in order, after those that are there. -/
theorem ControllerRegistry.register_ready (registry : ControllerRegistry)
    (controllers : List Controller) :
    (registry.register (controllers.map .ready)).registry
        = ⟨registry.controllers ++ controllers, registry.hooks⟩ ∧
      (registry.register (controllers.map .ready)).result = .ok () := by
  induction controllers generalizing registry with
  | nil => simp [register]
  | cons controller rest ih =>
    obtain ⟨hregistry, hresult⟩ := ih (registry.add controller)
    rw [List.map_cons, register, ControllerReference.build]
    dsimp only
    refine ⟨hregistry.trans ?_, hresult⟩
    rw [add, List.append_assoc, List.singleton_append]

namespace Settings

variable {path : Option Path} {p : Path} {overrides : Overrides} {environment : Environment}
  {disk : Disk} {settings : Settings} {raw file : File}

/-! ## What is checked -/

theorem isPlain_eq (value : Text) : isPlain value = value.isIdentifier := by
  cases value <;> rfl

theorem requireIdentifier_eq_ok {field : String} {value : Text} :
    requireIdentifier field value = .ok () ↔ value.isIdentifier = true := by
  rw [requireIdentifier, isPlain_eq]
  split <;> simp [*]

theorem checkData_eq_ok {index : Nat} {entries : List DataSettings} :
    checkData index entries = .ok () ↔ ∀ entry ∈ entries, entry.Sound := by
  induction entries generalizing index with
  | nil => exact iff_of_true rfl (by simp)
  | cons entry rest ih =>
    rw [checkData, List.forall_mem_cons, ← @ih (index + 1), DataFormat.contains_dataExtensions]
    split
    · next hviews =>
      rw [Bool.or_eq_true, List.isEmpty_iff, List.contains_iff_mem] at hviews
      refine iff_of_false nofun fun h ↦ ?_
      rcases hviews with hempty | hnamed
      · exact h.1.views hempty
      · exact h.1.named hnamed
    · next hviews =>
      rw [Bool.or_eq_true, List.isEmpty_iff, List.contains_iff_mem, not_or] at hviews
      split
      · next hformat =>
        refine iff_of_false nofun fun h ↦ ?_
        rw [h.1.format] at hformat
        cases hformat
      · next hformat =>
        rw [Bool.not_eq_true, Bool.not_eq_false'] at hformat
        exact (and_iff_right ⟨hviews.1, hviews.2, hformat⟩).symm

/-- Whether settings satisfy what is required of them. -/
structure Sound (settings : Settings) : Prop where
  sanitizeFilter : settings.engine.sanitizeFilter.isIdentifier = true
  capabilities : ∀ name ∈ settings.engine.capabilities, name.isIdentifier = true
  controllers : ∀ entry ∈ settings.controllers, entry.Sound

theorem check_eq_ok_iff : settings.check = .ok () ↔ settings.Sound := by
  rw [check]
  constructor
  · intro h
    obtain ⟨_, hfilter, h⟩ := bind_eq_ok_iff.mp h
    obtain ⟨_, hcapabilities, hcontrollers⟩ := bind_eq_ok_iff.mp h
    exact ⟨requireIdentifier_eq_ok.mp hfilter, fun name hname ↦
      requireIdentifier_eq_ok.mp (forM_eq_ok_iff.mp hcapabilities name hname),
      checkData_eq_ok.mp hcontrollers⟩
  · intro h
    refine bind_eq_ok_iff.mpr ⟨(), requireIdentifier_eq_ok.mpr h.sanitizeFilter, ?_⟩
    refine bind_eq_ok_iff.mpr ⟨(), forM_eq_ok_iff.mpr fun name hname ↦ ?_, ?_⟩
    · exact requireIdentifier_eq_ok.mpr (h.capabilities name hname)
    · exact checkData_eq_ok.mpr h.controllers

/-- The command line does not speak of anything that is required. -/
theorem Sound.override (h : settings.Sound) (overrides : Overrides) :
    (settings.override overrides).Sound :=
  ⟨h.sanitizeFilter, h.capabilities, h.controllers⟩

theorem sound_ofRoot (root : Path) : (ofRoot root).Sound :=
  ⟨rfl, nofun, nofun⟩

theorem sound_of_loadBase (h : loadBase path environment disk = .ok settings) :
    settings.Sound := by
  rcases loadBase_cases h with ⟨p, -, hload⟩ | ⟨-, rfl⟩
  · obtain ⟨-, -, -, -, -, hcheck⟩ := loadFile_eq_ok hload
    exact check_eq_ok_iff.mp hcheck
  · exact sound_ofRoot _

/-! ## What is planned -/

/-- For settings that are as required there is a plan, with the built-in directives and one
controller for each data file. -/
theorem Sound.ofSettings (h : settings.Sound) :
    SitePlan.ofSettings settings = .ok
      { settings := .ofSettings settings
        registry := Directive.Registry.empty.registerAll
          (Directive.Builtin.rules settings.engine.sanitizeFilter)
        controllers := ⟨settings.controllers.map DataSettings.controller, []⟩ } := by
  have hplan : SitePlan.ofSiteSettings (.ofSettings settings) = .ok ⟨.ofSettings settings,
      Directive.Registry.empty.registerAll
        (Directive.Builtin.rules settings.engine.sanitizeFilter), .empty⟩ := by
    rw [SitePlan.ofSiteSettings, Directive.Registry.registerBuiltins, SiteSettings.ofSettings,
      if_pos h.sanitizeFilter]
  have hcontrollers : (settings.controllers.mapM fun entry ↦
      Controller.ofDataFile entry.views entry.data)
        = .ok (settings.controllers.map DataSettings.controller) := by
    rw [mapM_eq_ok_iff, List.forall₂_map_right_iff, List.forall₂_same]
    exact fun entry hentry ↦ (h.controllers entry hentry).ofDataFile
  obtain ⟨hregistry, hresult⟩ := ControllerRegistry.empty.register_ready
    (settings.controllers.map DataSettings.controller)
  refine bind_eq_ok_iff.mpr ⟨_, hplan, ?_⟩
  refine bind_eq_ok_iff.mpr ⟨_, mapError_eq_ok_iff.mpr hcontrollers, ?_⟩
  rw [SitePlan.register]
  dsimp only
  rw [hresult, hregistry]
  rfl

/-! ## The entries of a file -/

/-- Putting in variables keeps the entries in order, and the views that each one names. -/
theorem expandControllers_eq_ok {index : Nat} {written expanded : List (List Text × Text)}
    (h : expandControllers environment index written = .ok expanded) :
    List.Forall₂ (fun entry entry' ↦ entry'.1 = entry.1 ∧
      expand environment entry.2 = .ok entry'.2) written expanded := by
  induction written generalizing index expanded with
  | nil =>
    cases h
    exact .nil
  | cons entry rest ih =>
    obtain ⟨views, data⟩ := entry
    rw [expandControllers] at h
    obtain ⟨data', hdata, h⟩ := bind_eq_ok_iff.mp h
    obtain ⟨rest', hrest, h⟩ := bind_eq_ok_iff.mp h
    cases h
    exact .cons ⟨rfl, mapError_eq_ok_iff.mp hdata⟩ (ih hrest)

theorem File.controllers_expand (h : raw.expand environment = .ok file) :
    List.Forall₂ (fun entry entry' ↦ entry'.1 = entry.1 ∧
      Settings.expand environment entry.2 = .ok entry'.2) raw.controllers file.controllers := by
  rw [File.expand] at h
  obtain ⟨root, -, h⟩ := bind_eq_ok_iff.mp h
  obtain ⟨views, -, h⟩ := bind_eq_ok_iff.mp h
  obtain ⟨outputs, -, h⟩ := bind_eq_ok_iff.mp h
  obtain ⟨controllers, hcontrollers, h⟩ := bind_eq_ok_iff.mp h
  cases h
  exact expandControllers_eq_ok hcontrollers

/-- Whether a controller serves the views of an entry from the data file that it names, variables
put in and seen from a root. -/
structure Serves (environment : Environment) (root : Path) (entry : List Text × Text)
    (controller : Controller) : Prop where
  views : controller.views = entry.1
  data : ∃ data, expand environment entry.2 = .ok data ∧
    controller.supplier = .dataFile (root.join ⟨data⟩) ∧
    controller.name = "data:".toList ++ (root.join ⟨data⟩).spelling

/-- Settings that have been loaded satisfy what is required of them, whatever the command line says,
and there is a plan for them. Its controllers stand for the entries of the settings file, one for
each and in their order; without a file there are none. -/
theorem load_starts (hload : load path overrides environment disk = .ok settings) :
    settings.check = .ok () ∧ ∃ plan, SitePlan.ofSettings settings = .ok plan ∧
      plan.settings = .ofSettings settings ∧
      Directive.Registry.empty.registerBuiltins settings.engine.sanitizeFilter
        = .ok plan.registry ∧
      (∀ p, file? path disk = some p → ∃ raw file : File, raw.WrittenAt p disk ∧
        raw.expand environment = .ok file ∧
        List.Forall₂ (Serves environment (file.rootAt p)) raw.controllers
          plan.controllers.controllers) ∧
      (file? path disk = none → plan.controllers.controllers = []) := by
  obtain ⟨base, hbase, rfl⟩ := load_eq_ok.mp hload
  have hsound := (sound_of_loadBase hbase).override overrides
  refine ⟨check_eq_ok_iff.mpr hsound, _, hsound.ofSettings, rfl, ?_, fun p hp ↦ ?_, fun hnone ↦ ?_⟩
  · rw [Directive.Registry.registerBuiltins, if_pos hsound.sanitizeFilter]
  · rcases loadBase_eq_ok hbase with ⟨q, raw, file, hq, hwritten, hexpand, rfl⟩ | ⟨hnone, -⟩
    · obtain rfl := Option.some.inj (hp.symm.trans hq)
      refine ⟨raw, file, hwritten, hexpand, ?_⟩
      -- the command line leaves the data files as the file has them
      change List.Forall₂ _ _ ((file.resolve p).controllers.map DataSettings.controller)
      rw [File.controllers_resolve, List.map_map, List.forall₂_map_right_iff]
      exact (File.controllers_expand hexpand).imp fun entry entry' h ↦
        ⟨h.1, entry'.2, h.2, rfl, rfl⟩
    · rw [hp] at hnone
      cases hnone
  · rcases loadBase_eq_ok hbase with ⟨q, -, -, hq, -⟩ | ⟨-, rfl⟩
    · rw [hnone] at hq
      cases hq
    · rfl

/-- A file that names its root, started with another root on the command line. -/
theorem load_starts_siteDisk : ∃ settings plan,
    load none { root := some (.ofString "/srv/other") } []
      (siteDisk (rootedDocument "/srv/theme")) = .ok settings ∧
    settings.check = .ok () ∧ SitePlan.ofSettings settings = .ok plan ∧
    plan.settings.directories.root = .ofString "/srv/other" ∧
    plan.controllers.controllers = [⟨"data:/srv/theme/home.json".toList, ["home".toList],
      .dataFile (.ofString "/srv/theme/home.json")⟩] := by
  have hloaded : (load none { root := some (.ofString "/srv/other") } []
      (siteDisk (rootedDocument "/srv/theme"))).toOption.map (·.directories.root)
        = some (.ofString "/srv/other") := by decide +kernel
  obtain ⟨settings, hsettings, hroot⟩ := Option.map_eq_some_iff.mp hloaded
  have hload := toOption_eq_some_iff.mp hsettings
  obtain ⟨hcheck, plan, hplan, hdirectories, -, hserves, -⟩ := load_starts hload
  obtain ⟨raw, file, hraw, hexpand, hserves⟩ :=
    hserves (.ofString "/vwt/site/vw.toml") (by decide +kernel)
  obtain rfl := hraw.unique writtenAt_rootedFile
  obtain rfl := Except.ok.inj (expand_rootedFile.symm.trans hexpand)
  obtain ⟨controller, rest, ⟨hviews, data, hdata, hsupplier, hname⟩, hrest, hcontrollers⟩ :=
    List.forall₂_cons_left_iff.mp hserves
  obtain rfl : rest = [] := List.forall₂_nil_left_iff.mp hrest
  have hdata' : Settings.expand [] "home.json".toList = .ok "home.json".toList := by cbv
  obtain rfl := Except.ok.inj (hdata'.symm.trans hdata)
  refine ⟨settings, plan, hload, hcheck, hplan, ?_, ?_⟩
  · rw [hdirectories]
    exact hroot
  · obtain ⟨name, views, supplier⟩ := controller
    dsimp only at hviews hsupplier hname
    rw [hcontrollers, hviews, hsupplier, hname]
    rfl

end Settings

end CompiledViews
