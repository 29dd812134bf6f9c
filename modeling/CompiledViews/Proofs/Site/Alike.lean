import CompiledViews.Proofs.Site.Service

/-!
# What responses depend on

A site without memory answers alike on disks that look alike, as long as the difference is none that
the controllers look at, that views are loaded from, or that the candidate or its artifact is
reached through. Dates matter only to whether an artifact is due, so when that is settled they are
left out of account.

The artifact itself may differ beforehand if it is made again: its source is the same.
-/

namespace CompiledViews

open Disk

namespace Site

variable {σ : Type} {site : Site σ} {plain : PlainEngine} {available : Capabilities}
  {region : Location → Prop} {candidate viewId : Text} {disk disk' : Disk}

theorem prefix_goal_of_accepts {host : Host} {here l : Location}
    (haccepts : site.accepts host candidate = true) (hl : l ∈ Path.trail ⟨candidate⟩ here) :
    l <+: Path.goal ⟨candidate⟩ here := by
  simp only [accepts, Path.isWithin, Bool.and_eq_true, Bool.not_eq_true'] at haccepts
  exact Path.prefix_goal_of_mem_trail (fun _ hname ↦
    Path.ne_up_of_not_contains haccepts.1.2.2 hname) hl

theorem plainPage_alike (h : disk.Alike region disk')
    (hcontrollers : site.controllers.Overlooks region disk.here)
    (hviews : ∀ l, plain.views.Around disk.here l → ¬region l) (viewId : Text) :
    site.plainPage plain available viewId disk' = site.plainPage plain available viewId disk := by
  have htemplate : ∀ name,
      plain.template available name disk' = plain.template available name disk :=
    fun name ↦ PlainEngine.template_of_sight h.here fun l hl ↦
      h.sight l (hviews l (hl.symm.imp_right (List.mem_cons_of_mem _)))
  rw [plainPage, plainPage, ControllerRegistry.resolve_alike hcontrollers h]
  split
  · rfl
  · simp only [PlainEngine.render_congr htemplate]

/-- Where it does not matter to a page what some views are, they need not be the same. -/
theorem plainPage_within {names : Text → Prop} (h : disk.Alike region disk')
    (hcontrollers : site.controllers.Overlooks region disk.here)
    (hwithin : site.ServesWithin plain names available viewId disk)
    (htemplate : ∀ name, names name →
      plain.template available name disk' = plain.template available name disk) :
    site.ServesWithin plain names available viewId disk' ∧
      site.plainPage plain available viewId disk' = site.plainPage plain available viewId disk := by
  have hresolve := ControllerRegistry.resolve_alike hcontrollers h viewId
  refine ⟨fun data hdata ↦ ?_, ?_⟩
  · rw [hresolve] at hdata
    exact ((hwithin data hdata).congr htemplate).1
  · rw [plainPage, plainPage, hresolve]
    cases hdata : (site.controllers.resolve viewId disk).result with
    | error error => rfl
    | ok data =>
      dsimp only
      rw [((hwithin data hdata).congr htemplate).2]

/-- A check that makes an artifact again comes out alike, and the artifacts are alike then even if
they were not before. -/
theorem check_alike_of_due (hview : Path.viewId? ⟨candidate⟩ = some viewId)
    (hdue : site.isDue candidate disk = .ok true) (hdue' : site.isDue candidate disk' = .ok true)
    (h : disk.Alike region disk') (hsource : ∀ l ∈ Path.trail ⟨candidate⟩ disk.here, ¬region l)
    (hway : ∀ l ∈ entered (site.cache.directory.start disk.here) site.cache.directory.names,
      ¬region l)
    (hkind : disk'.HasDirectory (site.cache.artifactLocation viewId disk.here) ↔
      disk.HasDirectory (site.cache.artifactLocation viewId disk.here)) :
    (site.check candidate disk').1 = (site.check candidate disk).1 ∧
      ((site.check candidate disk).1.isOk = true → (site.check candidate disk).2.Alike
        (fun l ↦ region l ∧ l ≠ site.cache.artifactLocation viewId disk.here)
        (site.check candidate disk').2) := by
  obtain ⟨hresult, halike, hartifact⟩ := ViewCache.refresh_alike hview h hsource hway hkind
  rw [check_eq site hview, check_eq site hview, hdue, hdue']
  dsimp only
  rcases hold : (site.cache.refresh ⟨candidate⟩).run.run disk with ⟨error | name, after⟩ <;>
    rcases hnew : (site.cache.refresh ⟨candidate⟩).run.run disk' with ⟨error' | name', after'⟩ <;>
    rw [hold, hnew] at hresult halike hartifact
  · cases hresult
    exact ⟨rfl, fun hok ↦ by cases hok⟩
  · cases hresult
  · cases hresult
  · refine ⟨rfl, fun _ ↦ ⟨halike.here, fun l hl ↦ ?_⟩⟩
    by_cases heq : l = site.cache.artifactLocation viewId disk.here
    · subst heq
      exact hartifact rfl
    · exact halike.sight l fun hregion ↦ hl ⟨hregion, heq⟩

theorem check_alike (hview : Path.viewId? ⟨candidate⟩ = some viewId)
    (hdue : site.isDue candidate disk' = site.isDue candidate disk)
    (h : disk.Alike region disk') (hsource : ∀ l ∈ Path.trail ⟨candidate⟩ disk.here, ¬region l)
    (hway : ∀ l ∈ entered (site.cache.directory.start disk.here) site.cache.directory.names,
      ¬region l)
    (hkind : disk'.HasDirectory (site.cache.artifactLocation viewId disk.here) ↔
      disk.HasDirectory (site.cache.artifactLocation viewId disk.here)) :
    (site.check candidate disk').1 = (site.check candidate disk).1 ∧
      ((site.check candidate disk).1.isOk = true →
        (site.check candidate disk).2.Alike region (site.check candidate disk').2) := by
  rcases hold : site.isDue candidate disk with error | _ | _
  · rw [check_eq site hview, check_eq site hview, hdue, hold]
    exact ⟨rfl, fun hok ↦ by cases hok⟩
  · rw [check_eq site hview, check_eq site hview, hdue, hold]
    exact ⟨rfl, fun _ ↦ h⟩
  · obtain ⟨hresult, hafter⟩ :=
      check_alike_of_due hview hold (hdue.trans hold) h hsource hway hkind
    exact ⟨hresult, fun hok ↦ (hafter hok).mono fun l hl ↦ hl.1⟩

/-- A response is settled by the check and by the page that is made after it. -/
theorem plainResponse_congr {host host' : Host} (hactive : host'.active = host.active)
    (hrefusal : host'.refusal? = host.refusal?)
    (hcheck : (site.check candidate disk').1 = (site.check candidate disk).1)
    (hpage : ∀ found, (site.check candidate disk).1 = .ok found →
      site.plainPage plain available found.viewId (site.check candidate disk').2
        = site.plainPage plain available found.viewId (site.check candidate disk).2) :
    site.plainResponse plain available host' candidate disk'
      = site.plainResponse plain available host candidate disk := by
  have haccepts : site.accepts host' candidate = site.accepts host candidate := by
    rw [accepts, accepts, hactive]
  rw [plainResponse, plainResponse, haccepts, Host.respond_congr hrefusal]
  rcases hold : site.check candidate disk with ⟨error | found, after⟩ <;>
    rcases hnew : site.check candidate disk' with ⟨error' | found', after'⟩ <;>
    rw [hold, hnew] at hcheck
  · cases hcheck
    rfl
  · cases hcheck
  · cases hcheck
  · cases hcheck
    have hsame := hpage found (by rw [hold])
    rw [hold, hnew] at hsame
    dsimp only
    rw [hsame]

end Site

end CompiledViews
