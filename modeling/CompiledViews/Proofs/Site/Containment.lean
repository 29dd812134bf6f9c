import CompiledViews.Proofs.Settings.Rerooting
import CompiledViews.Proofs.Site.Run
import CompiledViews.Proofs.ViewCache.Atomic
import Mathlib.Data.Set.List

/-!
# What a site takes in

A candidate is compared with the root by components, so its spelling does not matter. A root and a
leading `.` can only come first, where the candidate has what the root has; past the root's own part
there are names, and `..`, which no candidate may have. So a candidate that is taken in leads where
the root leads and from there down, name by name, and its source can be nowhere else.

A candidate that is not taken in is handed back before anything is looked at. That nothing is looked
at cannot be seen from one run; it is said by leaving everything open that a request might look at.

The test for `..` is made of the whole candidate, the root's part of it included. Under a root that
goes up itself, as `../theme` does in a settings file, no candidate is taken in at all.
-/

namespace CompiledViews

open Disk

/-! ## Paths below a directory -/

namespace Path

/-- What a path means is its components. -/
theorem goal_eq_components (p : Path) (here : Location) :
    p.goal here = reached (p.start here) (p.components.filterMap Component.name?) := by
  rw [filterMap_name?_components]
  exact (reached_filter _ _).symm

theorem entered_eq_components (p : Path) (here : Location) :
    entered (p.start here) p.names
      = entered (p.start here) (p.components.filterMap Component.name?) := by
  rw [filterMap_name?_components]
  exact (entered_filter _ _).symm

theorem isStep_of_mem_components {p : Path} {name : Text} (h : .normal name ∈ p.components) :
    IsStep name := by
  obtain ⟨-, leading, hcounts⟩ := segment_of_mem_components h
  exact (isStep_of_component? hcounts).2

/-- Whether a path goes on from a directory by these names: its components are those of the
directory and then the names. -/
def GoesOn (p directory : Path) (names : List Text) : Prop :=
  p.components = directory.components ++ names.map .normal

instance (p directory : Path) (names : List Text) : Decidable (p.GoesOn directory names) :=
  inferInstanceAs (Decidable (_ = _))

namespace GoesOn

variable {p directory : Path} {names : List Text} {here l : Location}

theorem isStep (h : p.GoesOn directory names) : ∀ name ∈ names, IsStep name := by
  intro name hname
  refine isStep_of_mem_components (p := p) ?_
  rw [h]
  exact List.mem_append_right _ (List.mem_map_of_mem hname)

theorem start (h : p.GoesOn directory names) : p.start here = directory.start here := by
  refine start_of_isAbsolute ?_
  rw [Bool.eq_iff_iff, ← root_mem_components, ← root_mem_components, h, List.mem_append]
  simp

theorem spelled (h : p.GoesOn directory names) : p.components.filterMap Component.name?
    = directory.components.filterMap Component.name? ++ names := by
  have hnames : (names.map Component.normal).filterMap Component.name? = names := by
    rw [List.filterMap_map]
    exact List.filterMap_some
  rw [h, List.filterMap_append, hnames]

theorem goal (h : p.GoesOn directory names) (here : Location) :
    p.goal here = directory.goal here ++ names := by
  rw [goal_eq_components, goal_eq_components, h.start, h.spelled, reached_append,
    reached_of_isStep h.isStep]

/-- What is looked at when it is followed lies on the way to the directory or below it. -/
theorem mem_trail (h : p.GoesOn directory names) (hl : l ∈ p.trail here) :
    l ∈ directory.trail here ∨ directory.goal here <+: l := by
  rcases List.mem_cons.mp hl with rfl | hl
  · rw [h.goal]
    exact .inr (List.prefix_append _ _)
  · rw [entered_eq_components, h.start, h.spelled, entered_append, List.mem_append,
      ← entered_eq_components, ← goal_eq_components] at hl
    exact hl.imp (List.mem_cons_of_mem _) (prefix_of_mem_entered h.isStep)

/-- It is within the directory, unless the directory itself is reached by going up. -/
theorem isWithin (h : p.GoesOn directory names) :
    p.isWithin directory = !directory.components.contains .up := by
  have hstart : p.startsWith directory = true := by
    rw [startsWith, List.isPrefixOf_iff_prefix, h]
    exact List.prefix_append _ _
  have hup : p.components.contains .up = directory.components.contains .up := by
    rw [Bool.eq_iff_iff, List.contains_iff_mem, List.contains_iff_mem, h, List.mem_append]
    simp
  rw [Path.isWithin, hstart, hup, Bool.true_and]

end GoesOn

/-- What is within a directory goes on from it. A directory without components would take in paths
that start anywhere. -/
theorem exists_goesOn_of_isWithin {p directory : Path} (hne : directory.components ≠ [])
    (h : p.isWithin directory = true) : ∃ names, p.GoesOn directory names := by
  rw [isWithin, Bool.and_eq_true, Bool.not_eq_true', startsWith, List.isPrefixOf_iff_prefix] at h
  obtain ⟨⟨rest, hrest⟩, hup⟩ := h
  have hnormal : ∀ c ∈ rest, c ∈ Set.range Component.normal := by
    intro c hc
    have hmem : c ∈ p.components := hrest ▸ List.mem_append_right _ hc
    have htail : c ∈ p.components.tail := by
      rw [← hrest, List.tail_append_of_ne_nil hne]
      exact List.mem_append_right _ hc
    rcases mem_tail_components htail with rfl | ⟨name, rfl⟩
    · rw [← List.contains_iff_mem, hup] at hmem
      cases hmem
    · exact ⟨name, rfl⟩
  obtain ⟨names, rfl⟩ := (Set.range_list_map Component.normal).ge hnormal
  exact ⟨names, hrest.symm⟩

end Path

namespace Site

variable {σ : Type} {site : Site σ} {candidate : Text} {moment checked after : Moment σ}

/-! ## Candidates that are handed back -/

/-- Whether requests for a candidate do no work at all, where the root and what the host says of its
activity are these. Whatever else a site is made of, and whatever there is in its engine, with its
host and on the disk, the candidate is handed back and nothing has changed. -/
def PassesThrough (root : Path) (active : Bool) (candidate : Text) : Prop :=
  ∀ {σ : Type} (site : Site σ) (moment : Moment σ), site.root = root →
    moment.state.host.active = active → run (site.handle candidate) moment = (.ok candidate, moment)

theorem passesThrough_of_not_accepts {host : Host} (h : site.accepts host candidate = false) :
    PassesThrough site.root host.active candidate := by
  intro σ other moment hroot hactive
  have hother : other.accepts moment.state.host candidate = false := by
    rw [accepts, hroot, hactive]
    exact h
  rw [run_handle, hother]
  rfl

/-! ## Candidates that are handled -/

def page (site : Site σ) (check : CacheCheck) : SiteAction σ Text := do
  let data ← site.resolve check.viewId
  site.view check.renderName data

theorem serve_eq (check : CacheCheck) :
    site.serve check = do
      emit (← site.page check)
      return [] := by
  rw [serve, page, bind_assoc]

theorem host_ensureFresh {source : Path} {result : Except SiteError CacheCheck}
    (h : run (site.ensureFresh source) moment = (result, after)) :
    after.state.host = moment.state.host := by
  rw [run_ensureFresh] at h
  split at h <;> cases h <;> rfl

theorem host_page {check : CacheCheck} {result : Except SiteError Text}
    (h : run (site.page check) moment = (result, after)) :
    after.state.host = moment.state.host := by
  rw [page, run_bind, run_resolve] at h
  dsimp only at h
  cases hdata : (site.controllers.resolve check.viewId moment.disk).result with
  | error error =>
    rw [hdata] at h
    cases h
    rfl
  | ok data =>
    rw [hdata, mapError_ok] at h
    dsimp only at h
    rw [run_view] at h
    cases h
    rfl

/-- What a request has done that was handled: it has given the host the page that was made for the
candidate and answers nothing, or it has failed and given the host nothing. -/
inductive Handled (site : Site σ) (candidate : Text) (moment : Moment σ) :
    Except SiteError Text → Moment σ → Prop
  | emitted (check : CacheCheck) (checked after : Moment σ) (page : Text)
      (hcheck : run (site.ensureFresh ⟨candidate⟩) moment = (.ok check, checked))
      (hpage : (run (site.page check) checked).1 = .ok page)
      (hhost : after.state.host
        = { moment.state.host with received := moment.state.host.received ++ [page] }) :
    Handled site candidate moment (.ok []) after
  | failed (error : SiteError) (after : Moment σ) (hhost : after.state.host = moment.state.host) :
    Handled site candidate moment (.error error) after

theorem handled_of_accepts (haccepts : site.accepts moment.state.host candidate = true) :
    site.Handled candidate moment (run (site.handle candidate) moment).1
      (run (site.handle candidate) moment).2 := by
  rw [run_handle, if_pos haccepts]
  rcases hcheck : run (site.ensureFresh ⟨candidate⟩) moment with ⟨error | check, checked⟩
  · exact .failed error checked (host_ensureFresh hcheck)
  · have hchecked := host_ensureFresh hcheck
    dsimp only
    rw [serve_eq, run_bind]
    rcases hpage : run (site.page check) checked with ⟨error | page, served⟩
    · exact .failed error served ((host_page hpage).trans hchecked)
    · have hserved := (host_page hpage).trans hchecked
      dsimp only
      rw [run_bind, run_emit, hserved, Host.emit]
      cases hrefusal : moment.state.host.refusal? with
      | some fault => exact .failed (.emit fault) served hserved
      | none =>
        refine .emitted check checked _ page hcheck (by rw [hpage]) ?_
        dsimp only
        rw [hrefusal]
        rfl

/-! ## The two kinds of candidates -/

/-- A request does no work at all, or its candidate goes on from the root by names. Then it leads to
a place below the root, is looked for there and on the way to the root, and what a refresh puts into
its artifact, and nowhere else, are the bytes of the file in that place. -/
theorem handle_inert_or_below (hne : site.root.components ≠ []) (candidate : Text)
    (moment : Moment σ) :
    PassesThrough site.root moment.state.host.active candidate ∨
    ∃ names, Path.GoesOn ⟨candidate⟩ site.root names ∧
      Path.goal ⟨candidate⟩ moment.disk.here = site.root.goal moment.disk.here ++ names ∧
      (∀ l ∈ Path.trail ⟨candidate⟩ moment.disk.here,
        l ∈ site.root.trail moment.disk.here ∨ site.root.goal moment.disk.here <+: l) ∧
      ∀ name disk', (site.cache.refresh ⟨candidate⟩).run.run moment.disk = (.ok name, disk') →
        ∃ viewId content modified written, Path.viewId? ⟨candidate⟩ = some viewId ∧
          moment.disk.node? (site.root.goal moment.disk.here ++ names)
            = some (.file content modified) ∧
          disk'.node? (site.cache.artifactLocation viewId moment.disk.here)
            = some (.file content written) ∧
          ∀ l, l ≠ site.cache.artifactLocation viewId moment.disk.here →
            moment.disk.Keeps disk' l := by
  cases haccepts : site.accepts moment.state.host candidate with
  | false => exact .inl (passesThrough_of_not_accepts haccepts)
  | true =>
    rw [accepts, Bool.and_eq_true, Bool.and_eq_true] at haccepts
    obtain ⟨names, hgoes⟩ := Path.exists_goesOn_of_isWithin hne haccepts.1.2
    refine .inr ⟨names, hgoes, hgoes.goal _, fun l hl ↦ hgoes.mem_trail hl, fun name disk' h ↦ ?_⟩
    rcases ViewCache.refresh_outcome site.cache ⟨candidate⟩ moment.disk with
      ⟨error, after, hrun, -⟩ | ⟨viewId, content, modified, hview, hstat, -, hrun⟩
    · rw [hrun] at h
      cases h
    · rw [hrun] at h
      cases h
      have hsource := (stat_eq_ok hstat).2
      rw [hgoes.goal] at hsource
      exact ⟨viewId, content, modified, _, hview, hsource, ViewCache.node?_renewed_self ..,
        fun l hl ↦ ViewCache.keeps_renewed content modified hl⟩

/-! ### Templates with odd paths

A template that is named with slashes and dots too many, and one that is reached by leaving the
theme. -/

def nestedTemplates : List (List String × Node) :=
  [(["parts"], .directory 1), (["parts", "nav.html"], .file (encode "hi".toList) 1)]

theorem handle_inert_or_below_nestedTemplates :
    (∃ names,
      Path.GoesOn (.ofString "/vwt//theme/./parts/nav.html") (.ofString "/vwt/theme") names ∧
      Path.goal (.ofString "/vwt//theme/./parts/nav.html") [] = themeLocation [] ++ names) ∧
    PassesThrough (.ofString "/vwt/theme") true "/vwt/theme/parts/../../secret.html".toList := by
  have hne : (theme false).root.components ≠ [] := by decide
  constructor
  · rcases handle_inert_or_below hne "/vwt//theme/./parts/nav.html".toList
      (themeMoment false nestedTemplates) with hinert | ⟨names, hgoes, hgoal, -⟩
    · -- a page is made of it
      have hrun := congrArg (·.1.toOption)
        (hinert (theme false) (themeMoment false nestedTemplates) rfl rfl)
      exact absurd hrun (by decide +kernel)
    · exact ⟨names, hgoes, hgoal⟩
  · rcases handle_inert_or_below hne "/vwt/theme/parts/../../secret.html".toList
      (themeMoment false nestedTemplates) with hinert | ⟨names, hgoes, -⟩
    · exact hinert
    · exact absurd hgoes.isWithin (by decide)

/-! ## Roots that go up -/

theorem passesThrough_of_up {root : Path} (h : .up ∈ root.components) (active : Bool)
    (candidate : Text) : PassesThrough root active candidate := by
  have hwithin : Path.isWithin ⟨candidate⟩ root = false := by
    rw [Path.isWithin, Bool.and_eq_false_iff, Bool.not_eq_false', List.contains_iff_mem]
    by_cases hstart : (⟨candidate⟩ : Path).startsWith root = true
    · rw [Path.startsWith, List.isPrefixOf_iff_prefix] at hstart
      exact .inr (hstart.subset h)
    · exact .inl (Bool.not_eq_true _ ▸ hstart)
  intro σ site moment hroot hactive
  subst hroot hactive
  refine passesThrough_of_not_accepts ?_ site moment rfl rfl
  rw [accepts, hwithin, Bool.and_false, Bool.false_and]

/-- A candidate that goes on from the root by names is within it unless the root itself goes up. If
the root does not, an active host gets the page for such a candidate, or an error and no page, and
never the candidate; only an empty one is handed back. If the root does go up, every candidate is
handed back. -/
theorem handled_unless_root_goes_up {root : Path} {candidate : Text} {names : List Text}
    (hgoes : Path.GoesOn ⟨candidate⟩ root names) :
    Path.isWithin ⟨candidate⟩ root = !root.components.contains .up ∧
    (.up ∉ root.components → candidate ≠ [] → ∀ {σ : Type} (site : Site σ) (moment : Moment σ),
      site.root = root → moment.state.host.active = true →
        site.Handled candidate moment (run (site.handle candidate) moment).1
          (run (site.handle candidate) moment).2) ∧
    (.up ∈ root.components → ∀ active other, PassesThrough root active other) := by
  refine ⟨hgoes.isWithin, fun hup hne σ site moment hroot hactive ↦ handled_of_accepts ?_,
    fun hup active other ↦ passesThrough_of_up hup active other⟩
  rw [accepts, hroot, hgoes.isWithin, hactive]
  simp [hup, hne]

def themeAt (root : String) : Site ViewEngine := { theme false with root := .ofString root }

theorem handled_unless_root_goes_up_nestedTemplates :
    Path.isWithin (.ofString "/vwt/theme/parts/nav.html") (.ofString "/vwt//./theme/") = true ∧
    ∃ page, (run ((themeAt "/vwt//./theme/").handle "/vwt/theme/parts/nav.html".toList)
      (themeMoment false nestedTemplates)).2.state.host.received = [page] := by
  have hgoes : Path.GoesOn ⟨"/vwt/theme/parts/nav.html".toList⟩ (.ofString "/vwt//./theme/")
      ["parts".toList, "nav.html".toList] := by decide
  obtain ⟨hwithin, hhandled, -⟩ := handled_unless_root_goes_up hgoes
  refine ⟨hwithin, ?_⟩
  have h := hhandled (by decide) (by decide) (themeAt "/vwt//./theme/")
    (themeMoment false nestedTemplates) rfl rfl
  have hanswer : (run ((themeAt "/vwt//./theme/").handle "/vwt/theme/parts/nav.html".toList)
      (themeMoment false nestedTemplates)).1.toOption = some [] := by decide +kernel
  rcases hrun : run ((themeAt "/vwt//./theme/").handle "/vwt/theme/parts/nav.html".toList)
    (themeMoment false nestedTemplates) with ⟨answer, after⟩
  rw [hrun] at h hanswer
  cases h with
  | emitted check checked _ page _ _ hhost => exact ⟨page, congrArg Host.received hhost⟩
  | failed error => cases hanswer

/-- A settings file may have a root that goes up. A template that goes on from there is not within
it, and is handed back. So is the empty candidate, without a page, although it goes on from the
empty root by no names. -/
theorem handedBack_of_upwardRoot :
    (Settings.load none {} [] (Settings.siteDisk (Settings.rootedDocument "../theme"))).toOption.map
      (·.directories.root) = some (.ofString "/vwt/site/../theme") ∧
    Path.GoesOn (.ofString "/vwt/site/../theme/parts/nav.html") (.ofString "/vwt/site/../theme")
      ["parts".toList, "nav.html".toList] ∧
    Path.isWithin (.ofString "/vwt/site/../theme/parts/nav.html") (.ofString "/vwt/site/../theme")
      = false ∧
    (run ((themeAt "/vwt/site/../theme").handle "/vwt/site/../theme/parts/nav.html".toList)
      (themeMoment false nestedTemplates)).1.toOption
        = some "/vwt/site/../theme/parts/nav.html".toList ∧
    Path.GoesOn (.ofString "") (.ofString "") [] ∧
    (run ((themeAt "").handle []) (themeMoment false nestedTemplates)).1.toOption = some [] ∧
    (run ((themeAt "").handle []) (themeMoment false nestedTemplates)).2.state.host.received
      = [] := by
  decide +kernel

end Site

end CompiledViews
