import CompiledViews.Proofs.Site.Run
import CompiledViews.Proofs.ViewCache.Address
import CompiledViews.Proofs.ViewCache.Atomic
import CompiledViews.Proofs.ViewEngine.Missing

/-!
# Artifacts just made

A request that has just made an artifact asks the engine for it by its render name. The engine takes
the render name for a view name, and then finds the artifact, since it looks for it where the view
cache has put it; or it does not, and then it answers that there is no such view, although the
artifact is in place.

That a view is missing can be said of an artifact that was found only on account of its text, which
may ask for another view: neither reading, nor expanding, nor parsing a text has that fault.
-/

namespace CompiledViews

open Template (Extensions Fault)
open Disk

namespace ViewEngine

variable {engine engine' : ViewEngine} {available : Capabilities} {name : Text}
  {disk disk' : Disk} {fault : Fault}

theorem render_of_template_error (hloaded : engine.loaded = [])
    (hrun : ((template available name).run engine).run disk = ((.error fault, engine'), disk'))
    (data : ViewData) :
    ((render available name data).run engine).run disk
      = ((.error (.ofFault name fault), engine'), disk') := by
  have hreload : (reloadChanged.run engine).run disk = (((), engine), disk) := by
    have hrun : (reloadChanged.run engine).run disk
        = (((), if engine.loaded.any fun entry ↦ hasChanged entry.2 disk then engine.forget
            else engine), disk) := rfl
    rw [hrun, hloaded]
    rfl
  refine render_of_lookUp_error data ?_
  rw [lookUp, Stateful.run_bind, hreload, hrun]

end ViewEngine

/-! ## What a host gets -/

namespace Site

variable {site : Site ViewEngine} {directories : Directories} {candidate viewId : Text}
  {moment after : Moment ViewEngine} {data : ViewData} {fault : Fault}

/-- Whether a request for a template has just made its artifact, and is going to serve the page from
it. -/
structure Remade (site : Site ViewEngine) (directories : Directories) (candidate viewId : Text)
    (moment after : Moment ViewEngine) : Prop where
  renderer : site.renderer = ViewEngine.renderer
  directory : site.cache.directory = directories.viewCache
  views : moment.state.engine.views = directories.views
  accepts : site.accepts moment.state.host candidate = true
  made : run (site.ensureFresh ⟨candidate⟩) moment = (.ok ⟨viewId, renderName viewId, true⟩, after)

namespace Remade

/-- The artifact has the bytes of the template, and the engine has forgotten everything. -/
theorem spec (h : site.Remade directories candidate viewId moment after) :
    Path.viewId? ⟨candidate⟩ = some viewId ∧
      (∃ content, moment.disk.read ⟨candidate⟩ = .ok content ∧
        after.disk.read (site.cache.artifactPath viewId) = .ok content) ∧
      ∃ time, after.state = { moment.state with engine := moment.state.engine.expired time } := by
  have hmade := h.made
  rw [run_ensureFresh, h.renderer] at hmade
  cases hview : Path.viewId? ⟨candidate⟩ with
  | none =>
    rw [ViewCache.run_ensureFreshWith_of_no_viewId hview] at hmade
    cases hmade
  | some found =>
    rw [ViewCache.run_ensureFreshWith hview] at hmade
    generalize (if (site.force || site.hooks.force ⟨candidate⟩) = true then Except.ok true
      else site.cache.isStale ⟨candidate⟩ moment.disk) = stale at hmade
    rcases stale with error | _ | _
    · cases hmade
    · cases hmade
    · cases hrefresh : (site.cache.refresh ⟨candidate⟩).run.run moment.disk with
      | mk answer disk =>
        rw [hrefresh] at hmade
        cases answer with
        | error error => cases hmade
        | ok name =>
          cases hmade
          obtain ⟨⟨content, modified, hsource, -, hread⟩, -⟩ :=
            ViewCache.renewal_of_refresh hrefresh hview
          -- the engine looks at the clock once more, which the artifact does not notice
          have htick : disk.tick.read (site.cache.artifactPath viewId)
              = disk.read (site.cache.artifactPath viewId) := read_of_sight rfl fun _ _ ↦ rfl
          exact ⟨rfl, ⟨content, hsource, htick.trans hread⟩, disk.tick.clock, rfl⟩

theorem sourcePath? (h : site.Remade directories candidate viewId moment after) :
    after.state.engine.sourcePath? (renderName viewId) =
      if Unnameable viewId then none else some (site.cache.artifactPath viewId) := by
  obtain ⟨hview, -, time, hstate⟩ := h.spec
  have hviews : after.state.engine.views = directories.views := by
    rw [hstate]
    exact h.views
  rw [ViewEngine.sourcePath?, hviews, path?_renderName directories (.inl ⟨_, hview⟩)]
  simp only [ViewCache.artifactPath, h.directory]

theorem response (h : site.Remade directories candidate viewId moment after)
    (hdata : (site.controllers.resolve viewId after.disk).result = .ok data)
    (hname : site.hooks.template (renderName viewId) data = renderName viewId)
    {engine : ViewEngine} {disk : Disk}
    (hrun : ((ViewEngine.template after.state.capabilities (renderName viewId)).run
      after.state.engine).run after.disk = ((.error fault, engine), disk)) :
    site.response candidate moment
      = ⟨.error (.render (.ofFault (renderName viewId) fault)), []⟩ := by
  obtain ⟨-, -, time, hstate⟩ := h.spec
  have hloaded : after.state.engine.loaded = [] := by
    rw [hstate]
    rfl
  have hrender := ViewEngine.render_of_template_error hloaded hrun
    (site.hooks.arguments data (renderName viewId))
  rw [Site.response, run_handle, if_pos h.accepts, h.made]
  dsimp only
  rw [run_serve]
  dsimp only
  rw [hdata, h.renderer]
  dsimp only [ViewEngine.renderer]
  rw [hname, hrender]
  have hhost : after.state.host = moment.state.host := by rw [hstate]
  simp [hhost]

end Remade

end Site

/-- The engine looks for the artifact of a view where the view cache puts it, unless it does not
take the render name for a view name. In that case a request that has just put the artifact into its
place is told that there is no such view. In the other case it may be told so only after the
artifact has been found, read, expanded and parsed, so on account of another view that the template
asks for. -/
theorem artifact_found_unless_unnameable (directories : Directories) {viewId : Text}
    (hviewId : IsViewId viewId) :
    (ViewName.path? directories.views (renderName viewId) =
      if Unnameable viewId then none
      else some (ViewCache.artifactPath ⟨directories.viewCache, directories.outputs⟩ viewId)) ∧
    ∀ {site : Site ViewEngine} {candidate : Text} {moment after : Moment ViewEngine}
      {data : ViewData}, site.Remade directories candidate viewId moment after →
      (site.controllers.resolve viewId after.disk).result = .ok data →
      site.hooks.template (renderName viewId) data = renderName viewId →
      (∃ content, moment.disk.read ⟨candidate⟩ = .ok content ∧
        after.disk.read (site.cache.artifactPath viewId) = .ok content) ∧
      (Unnameable viewId → site.response candidate moment
        = ⟨.error (.render (.notFound (renderName viewId))), []⟩) ∧
      (¬Unnameable viewId → ∃ answer engine disk,
        ((ViewEngine.template after.state.capabilities (renderName viewId)).run
          after.state.engine).run after.disk = ((answer, engine), disk) ∧
        (∀ fault, answer = .error fault → fault.kind ≠ .templateNotFound) ∧
        ∀ name, (site.response candidate moment).result = .error (.render (.notFound name)) →
          ∃ t, answer = .ok t) := by
  refine ⟨path?_renderName directories hviewId, ?_⟩
  intro site candidate moment after data h hdata hname
  obtain ⟨-, ⟨content, hread, hartifact⟩, time, hstate⟩ := h.spec
  have hsource := h.sourcePath?
  refine ⟨⟨content, hread, hartifact⟩, fun hunnameable ↦ ?_, fun hnameable ↦ ?_⟩
  · rw [if_pos hunnameable] at hsource
    have hparsed : after.state.engine.parsed = [] := by
      rw [hstate]
      rfl
    exact h.response hdata hname (ViewEngine.template_of_nameless hsource hparsed _ _)
  · rw [if_neg hnameable] at hsource
    obtain ⟨time', hstat⟩ := read_eq_ok.mp hartifact
    rcases hrun : ((ViewEngine.template after.state.capabilities (renderName viewId)).run
      after.state.engine).run after.disk with ⟨⟨answer, engine⟩, disk⟩
    have hkind : ∀ fault, answer = .error fault → fault.kind ≠ .templateNotFound := by
      rintro fault rfl
      exact ViewEngine.kind_of_template hsource hstat hrun
    refine ⟨answer, engine, disk, rfl, hkind, fun name hresponse ↦ ?_⟩
    cases answer with
    | ok t => exact ⟨t, rfl⟩
    | error fault =>
      rw [h.response hdata hname hrun] at hresponse
      have herror := SiteError.render.inj (Except.error.inj hresponse)
      exact absurd herror (RenderError.ofFault_ne_notFound (hkind fault rfl))

/-! ### Names with a backslash or of dots

A theme with templates whose names are fine for files, one of which is fine for views too. -/

def oddTemplates : List (List String × Node) :=
  ["a\\b.html", "..html", "...", "home.html"].map fun name ↦
    ([name], .file (encode "hi".toList) 1)

def oddChecked (candidate : String) : Moment ViewEngine :=
  (Site.run ((theme false).ensureFresh ⟨candidate.toList⟩) (themeMoment false oddTemplates)).2

theorem remade_oddChecked (candidate viewId : String)
    (haccepts : (theme false).accepts .ready candidate.toList = true)
    (hmade : (Site.run ((theme false).ensureFresh ⟨candidate.toList⟩)
      (themeMoment false oddTemplates)).1.toOption
        = some ⟨viewId.toList, renderName viewId.toList, true⟩) :
    (theme false).Remade (themePlan false).settings.directories candidate.toList viewId.toList
      (themeMoment false oddTemplates) (oddChecked candidate) where
  renderer := rfl
  directory := rfl
  views := rfl
  accepts := haccepts
  made := Prod.ext (toOption_eq_some_iff.mp hmade) rfl

theorem artifact_found_unless_unnameable_backslash :
    (theme false).response "/vwt/theme/a\\b.html".toList (themeMoment false oddTemplates)
      = ⟨.error (.render (.notFound "cache/a\\b".toList)), []⟩ ∧
    ViewName.path? (.ofString "/vwt/theme/views") "cache/home".toList
      = some (.ofString "/vwt/theme/views/cache/home.jinja") := by
  have hodd : IsViewId "a\\b".toList :=
    .inl ⟨⟨"/vwt/theme/a\\b.html".toList⟩, by decide +kernel⟩
  have hhome : IsViewId "home".toList := .inl ⟨⟨"/vwt/theme/home.html".toList⟩, by decide +kernel⟩
  have hremade := remade_oddChecked "/vwt/theme/a\\b.html" "a\\b" (by decide +kernel)
    (by decide +kernel)
  have hdata : ((theme false).controllers.resolve "a\\b".toList
      (oddChecked "/vwt/theme/a\\b.html").disk).result = .ok [] := by
    rw [show (theme false).controllers = .empty from themePlan_controllers false]
    rfl
  obtain ⟨-, hresponse⟩ :=
    artifact_found_unless_unnameable (themePlan false).settings.directories hodd
  obtain ⟨hpath, -⟩ :=
    artifact_found_unless_unnameable (themePlan false).settings.directories hhome
  refine ⟨(hresponse hremade hdata rfl).2.1 (by decide), ?_⟩
  rw [if_neg (by decide)] at hpath
  exact hpath

/-- A template is there and its artifact is made, but the engine takes the view for a missing
one. -/
theorem notFound_oddTemplates :
    Path.viewId? ⟨"/vwt/theme/a\\b.html".toList⟩ = some "a\\b".toList ∧
    ViewName.path? (.ofString "/vwt/theme/views") (renderName "a\\b".toList) = none ∧
    ((theme false).response "/vwt/theme/a\\b.html".toList
      (themeMoment false oddTemplates)).renderError? = some (.notFound "cache/a\\b".toList) ∧
    ((theme false).response "/vwt/theme/..html".toList
      (themeMoment false oddTemplates)).renderError? = some (.notFound "cache/.".toList) ∧
    ((theme false).response "/vwt/theme/...".toList
      (themeMoment false oddTemplates)).renderError? = some (.notFound "cache/..".toList) := by
  decide +kernel

end CompiledViews
