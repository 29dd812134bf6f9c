import CompiledViews.Proofs.ViewCache.Artifact

/-!
# Where the engine looks for artifacts

The view cache makes the path of an artifact from a view id, and the engine makes it from the render
name, segment by segment. Both come to the same path, letter by letter, unless the engine takes the
render name for no view name at all.

A view id is any name without a slash, and the engine takes most of them. It takes neither `.` nor
`..` as a segment, although with the extension they are ordinary names of files, and it takes no
backslash. Files may be named so all the same: `..html` has the view id `.`.
-/

namespace CompiledViews

/-! ## View ids -/

theorem encode_of_fromUTF8? {bytes : List UInt8} {s : String}
    (h : String.fromUTF8? ⟨bytes.toArray⟩ = some s) :
    s.toList.flatMap String.utf8EncodeChar = bytes := by
  rw [String.fromUTF8?] at h
  split at h
  · next hvalid =>
    cases h
    have hbytes : (String.fromUTF8 ⟨bytes.toArray⟩ hvalid).toList.utf8Encode = ⟨bytes.toArray⟩ :=
      String.utf8Encode_toList
    have hdata := congrArg ByteArray.data hbytes
    rw [List.utf8Encode, List.data_toByteArray] at hdata
    exact congrArg Array.toList hdata
  · cases h

/-- Whether a text is the view id of some file, whose path may be a text or any bytes. -/
def IsViewId (viewId : Text) : Prop :=
  (∃ source : Path, source.viewId? = some viewId) ∨
    ∃ source : Path UInt8, source.viewIdOfBytes? = some viewId

namespace IsViewId

variable {viewId : Text}

theorem stem_of_viewIdOfBytes? {source : Path UInt8} (h : source.viewIdOfBytes? = some viewId) :
    source.stem? = some (viewId.flatMap String.utf8EncodeChar) := by
  rw [Path.viewIdOfBytes?, Option.bind_eq_some_iff] at h
  obtain ⟨stem, hstem, hdecode⟩ := h
  obtain ⟨s, hs, rfl⟩ := Option.map_eq_some_iff.mp hdecode
  rw [hstem, encode_of_fromUTF8? hs]

theorem nonempty (h : IsViewId viewId) : viewId ≠ [] := by
  rcases h with ⟨source, h⟩ | ⟨source, h⟩
  · exact (Path.stem?_spec h).1
  · rintro rfl
    exact (Path.stem?_spec (stem_of_viewIdOfBytes? h)).1 rfl

theorem slashless (h : IsViewId viewId) : '/' ∉ viewId := by
  rcases h with ⟨source, h⟩ | ⟨source, h⟩
  · exact (Path.stem?_spec h).2
  · intro hslash
    -- a slash is encoded as the byte that separates segments
    have hbyte : (47 : UInt8) ∈ viewId.flatMap String.utf8EncodeChar :=
      List.mem_flatMap.mpr ⟨'/', hslash, by decide⟩
    exact (Path.stem?_spec (stem_of_viewIdOfBytes? h)).2 hbyte

end IsViewId

/-! ## Render names -/

/-- The view ids that the engine does not take for the last segment of a view name. -/
def Unnameable (viewId : Text) : Prop := viewId = ['.'] ∨ viewId = ['.', '.'] ∨ '\\' ∈ viewId

instance (viewId : Text) : Decidable (Unnameable viewId) := instDecidableOr

variable {viewId : Text}

theorem isSegment_iff (h : viewId ≠ []) :
    ViewName.isSegment viewId = true ↔ ¬Unnameable viewId := by
  simp [ViewName.isSegment, Unnameable, h, and_assoc]

theorem isValid_renderName (h : IsViewId viewId) :
    ViewName.isValid (renderName viewId) = true ↔ ¬Unnameable viewId := by
  have hsegments : Text.splitAll '/' (renderName viewId) = [cacheNamespace, viewId] := by
    rw [renderName, Text.splitAll_append_cons, Text.splitAll_of_not_mem h.slashless,
      Text.splitAll_of_not_mem (by decide)]
    rfl
  have hcache : ViewName.isSegment cacheNamespace = true := by decide
  rw [ViewName.isValid, hsegments, ← isSegment_iff h.nonempty]
  simp [hcache]

theorem Directories.artifactPath_eq (directories : Directories) (h : '/' ∉ viewId) :
    ViewCache.artifactPath ⟨directories.viewCache, directories.outputs⟩ viewId
      = directories.views.join (ViewName.relativePath (renderName viewId)) := by
  have hname := ViewCache.isName_artifactName h
  have hpath : ViewName.relativePath (renderName viewId)
      = ⟨cacheNamespace ++ '/' :: ViewCache.artifactName viewId⟩ := by
    simp [ViewName.relativePath, renderName, ViewCache.artifactName]
  rw [hpath]
  exact Path.join_join (by decide) hname.isAbsolute (by decide) (by decide)

/-- The engine looks for an artifact where the view cache puts it, or not at all. -/
theorem path?_renderName (directories : Directories) (h : IsViewId viewId) :
    ViewName.path? directories.views (renderName viewId) =
      if Unnameable viewId then none
      else some (ViewCache.artifactPath ⟨directories.viewCache, directories.outputs⟩ viewId) := by
  by_cases hname : Unnameable viewId
  · rw [if_pos hname, ViewName.path?, ViewName.relativePath?, if_neg]
    · rfl
    · exact fun hvalid ↦ (isValid_renderName h).mp hvalid hname
  · rw [if_neg hname, directories.artifactPath_eq h.slashless]
    exact ViewName.path?_eq_some.mpr ⟨(isValid_renderName h).mpr hname, rfl⟩

end CompiledViews
