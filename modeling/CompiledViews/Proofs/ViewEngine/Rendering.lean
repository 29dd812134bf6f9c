import CompiledViews.Proofs.ViewEngine.Answers
import CompiledViews.Proofs.ViewEngine.Faithful

/-!
# Rendering with a memory

A rendering asks for templates one after the other. Each answer is right if what is remembered of
that view is true, and each question leaves that so; hence the result is that of an engine without
memory, as long as it asks for no view about which nothing is known.
-/

namespace CompiledViews

open Template (Extensions Fault Rendering)
open Disk

namespace ViewEngine

variable {engine engine' : ViewEngine} {available : Capabilities} {name : Text}
  {disk disk' : Disk} {names : Text → Prop}

/-- Every question for one of the given views is answered as it would be without a memory. -/
theorem meets_ready (names : Text → Prop) (hapart : engine.views.Apart engine.outputs disk.here) :
    Meets available
      (fun engine' disk' ↦ Loads available engine disk engine' disk' ∧
        Ready names available engine' disk')
      fun other answer ↦ names other → answer = engine.plain.template available other disk := by
  rintro other engine₀ disk₀ ⟨hloads, hready⟩ answer engine' disk' hrun
  obtain ⟨hloads', hready', hanswer⟩ := hready.template (hloads.apart hapart) hrun
  exact ⟨⟨hloads.trans hloads' hapart, hready'⟩, fun hother ↦
    (hanswer hother).trans (hloads.template other)⟩

/-! ## Forgetting what has changed -/

theorem Faithful.forget (h : Faithful available engine disk name) :
    Faithful available engine.forget disk name :=
  ⟨fun _ ht ↦ (nomatch ht), h.output⟩

theorem Ready.forget (h : ∀ name, names name → Faithful available engine disk name) :
    Ready names available engine.forget disk :=
  ⟨fun name hname ↦ (h name hname).forget, fun _ _ _ ht ↦ (nomatch ht)⟩

/-- A view whose source has not changed since it was loaded has the template that was parsed. -/
theorem Faithful.current (h : Faithful available engine disk name)
    (hunchanged : ∀ source, engine.loaded.get? name = some source → hasChanged source disk = false)
    {t : Template} (ht : engine.parsed.get? name = some t) :
    engine.plain.template available name disk = .ok t := by
  obtain ⟨source, time, hsource, hnoted, hnode⟩ := h.parsed t ht
  have hsame := hunchanged _ hnoted
  rw [hasChanged] at hsame
  split at hsame
  · next modified hmodified =>
    obtain ⟨node, hstat, rfl⟩ := modified_eq_ok hmodified
    rw [bne_eq_false_iff_eq] at hsame
    obtain ⟨text, htext, hparse⟩ := hnode node (stat_eq_ok hstat).2 hsame
    have hexpanded : engine.plain.expanded available name disk = .ok (some text) :=
      PlainEngine.expanded_of_expands hsource hstat htext
    rw [PlainEngine.template_of_expanded hexpanded, hparse]
    rfl
  · cases hsame

/-- Before it renders, an engine forgets what may not be true any more. -/
theorem ready_of_reloadChanged (h : ∀ name, names name → Faithful available engine disk name)
    (hrun : (reloadChanged.run engine).run disk = (((), engine'), disk)) :
    Loads available engine disk engine' disk ∧ Ready names available engine' disk := by
  rcases run_reloadChanged engine disk with hforgot | ⟨hkept, hunchanged⟩
  · rw [hforgot] at hrun
    cases hrun
    have hloaded : ∀ name source, engine.forget.loaded.get? name = some source →
        engine.loaded.get? name = some source ∨ engine.sourcePath? name = some source.path ∧
          disk.modified source.path = .ok source.modified := fun _ _ hsource ↦ (nomatch hsource)
    exact ⟨⟨rfl, rfl, rfl, hloaded, .refl disk, fun _ _ _ ↦ rfl⟩, .forget h⟩
  · rw [hkept] at hrun
    cases hrun
    exact ⟨.refl .., h, fun name t hname ht ↦ (h name hname).current (hunchanged name) ht⟩

/-! ## Whole requests -/

/-- What an engine answers when it is asked to render a view, and what it is like afterwards. -/
theorem faithful_render (h : ∀ name, names name → Faithful available engine disk name)
    (hapart : engine.views.Apart engine.outputs disk.here) (name : Text) (data : ViewData)
    {answer : Except RenderError Text}
    (hrun : ((render available name data).run engine).run disk = ((answer, engine'), disk')) :
    Loads available engine disk engine' disk' ∧
      (∀ other, names other → Faithful available engine' disk' other) ∧
      (engine.plain.StaysWithin names available name data disk →
        answer = engine.plain.render available name data disk) := by
  obtain ⟨⟨engine₁, calls, ⟨hloads, hready⟩, rfl⟩, hanswer⟩ :=
    (meets_ready names hapart).render
      (fun _ _ hstate ↦ congrArg PlainEngine.extensions hstate.1.plain)
      (fun _ hreload ↦ ready_of_reloadChanged h hreload) name data hrun
  refine ⟨hloads.calls calls, fun other hother ↦ ?_, fun hstays ↦ ?_⟩
  · have hfaithful := hready.faithful other hother
    exact ⟨hfaithful.parsed, hfaithful.output⟩
  · exact eq_plain_of_answered hanswer hstays fun _ _ hother hsame ↦ hsame hother

/-- What an engine answers when it is asked whether a view can be loaded and parsed. -/
theorem faithful_compiles (h : ∀ name, names name → Faithful available engine disk name)
    (hapart : engine.views.Apart engine.outputs disk.here) (name : Text) {answer : Bool}
    (hrun : ((compiles available name).run engine).run disk = ((answer, engine'), disk')) :
    Loads available engine disk engine' disk' ∧
      (∀ other, names other → Faithful available engine' disk' other) ∧
      (names name → answer = engine.plain.compiles available name disk) := by
  obtain ⟨⟨hloads, hready⟩, found, hfound, rfl⟩ :=
    (meets_ready names hapart).compiles
      (fun _ hreload ↦ ready_of_reloadChanged h hreload) name hrun
  exact ⟨hloads, hready.faithful, fun hname ↦ by rw [PlainEngine.compiles, hfound hname]⟩

end ViewEngine

end CompiledViews
