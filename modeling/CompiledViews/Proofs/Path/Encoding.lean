import CompiledViews.Proofs.Path.Components
import CompiledViews.ViewName

/-!
# Paths as bytes

A path that is a text can be taken as its bytes in UTF-8 as well. Slashes and dots are single bytes
there, and these bytes occur in no other character; so the bytes are cut into segments where the
text is, the same segments count, and names and stems are the bytes of those of the text.
-/

namespace CompiledViews

open PathSymbol

/-! ## Bytes of characters -/

/-- A byte below 128 stands for the character with this number, and occurs in no other one. -/
theorem toNat_of_mem_utf8EncodeChar {c : Char} {b : UInt8} (h : b ∈ String.utf8EncodeChar c)
    (hb : b.toNat < 128) : c.val.toNat = b.toNat := by
  rw [String.utf8EncodeChar] at h
  split at h
  · obtain rfl := List.mem_singleton.mp h
    rw [UInt8.toNat_ofNat']
    omega
  · -- the bytes of longer encodings are all above
    exfalso
    split at h
    · simp only [List.mem_cons, List.not_mem_nil, or_false] at h
      rcases h with rfl | rfl <;> rw [UInt8.toNat_ofNat'] at hb <;> omega
    · split at h
      · simp only [List.mem_cons, List.not_mem_nil, or_false] at h
        rcases h with rfl | rfl | rfl <;> rw [UInt8.toNat_ofNat'] at hb <;> omega
      · simp only [List.mem_cons, List.not_mem_nil, or_false] at h
        rcases h with rfl | rfl | rfl | rfl <;> rw [UInt8.toNat_ofNat'] at hb <;> omega

def Text.bytes (t : Text) : List UInt8 := t.flatMap String.utf8EncodeChar

namespace Text

variable {t : Text} {c : Char}

@[simp] theorem bytes_nil : bytes [] = [] := rfl

theorem bytes_cons (c : Char) (t : Text) : bytes (c :: t) = String.utf8EncodeChar c ++ bytes t :=
  List.flatMap_cons

theorem bytes_append (s t : Text) : bytes (s ++ t) = bytes s ++ bytes t := List.flatMap_append

@[simp] theorem bytes_slash_cons (t : Text) : bytes ('/' :: t) = slash :: bytes t := by
  rw [bytes_cons]
  rfl

@[simp] theorem bytes_dot_cons (t : Text) : bytes ('.' :: t) = dot :: bytes t := by
  rw [bytes_cons]
  rfl

@[simp] theorem bytes_eq_nil_iff : bytes t = [] ↔ t = [] := by
  cases t with
  | nil => simp
  | cons c t => simp [bytes_cons, String.utf8EncodeChar_ne_nil]

theorem slash_mem_utf8EncodeChar : slash ∈ String.utf8EncodeChar c ↔ c = '/' := by
  refine ⟨fun h ↦ Char.ext (UInt32.toNat_inj.mp ?_), by rintro rfl; decide⟩
  exact toNat_of_mem_utf8EncodeChar h (by decide)

theorem dot_mem_utf8EncodeChar : dot ∈ String.utf8EncodeChar c ↔ c = '.' := by
  refine ⟨fun h ↦ Char.ext (UInt32.toNat_inj.mp ?_), by rintro rfl; decide⟩
  exact toNat_of_mem_utf8EncodeChar h (by decide)

theorem dot_mem_bytes : dot ∈ bytes t ↔ '.' ∈ t := by
  simp [bytes, dot_mem_utf8EncodeChar]

theorem bytes_eq_dot_cons {rest : List UInt8} (h : bytes t = dot :: rest) :
    ∃ t', t = '.' :: t' ∧ bytes t' = rest := by
  cases t with
  | nil => cases h
  | cons c t =>
    have hdot : c = '.' := by
      rw [bytes_cons] at h
      obtain ⟨b, bs, hc⟩ := List.exists_cons_of_ne_nil (String.utf8EncodeChar_ne_nil (c := c))
      rw [hc, List.cons_append, List.cons.injEq] at h
      exact dot_mem_utf8EncodeChar.mp (by rw [hc, ← h.1]; exact List.mem_cons_self)
    subst hdot
    rw [bytes_dot_cons, List.cons.injEq] at h
    exact ⟨t, rfl, h.2⟩

theorem bytes_eq_here : bytes t = [dot] ↔ t = ['.'] := by
  refine ⟨fun h ↦ ?_, by rintro rfl; simp⟩
  obtain ⟨t', rfl, hrest⟩ := bytes_eq_dot_cons h
  obtain rfl := bytes_eq_nil_iff.mp hrest
  rfl

theorem bytes_eq_up : bytes t = [dot, dot] ↔ t = ['.', '.'] := by
  refine ⟨fun h ↦ ?_, by rintro rfl; simp⟩
  obtain ⟨t', rfl, hrest⟩ := bytes_eq_dot_cons h
  obtain rfl := bytes_eq_here.mp hrest
  rfl

theorem splitAll_append_of_not_mem {α : Type} [DecidableEq α] {c : α} {s t part : List α}
    {parts : List (List α)} (hs : c ∉ s) (ht : splitAll c t = part :: parts) :
    splitAll c (s ++ t) = (s ++ part) :: parts := by
  induction s with
  | nil => exact ht
  | cons d s ih =>
    have hd : d ≠ c := fun heq ↦ hs (by simp [heq])
    rw [List.cons_append, splitAll, if_neg hd, ih fun hc ↦ hs (List.mem_cons_of_mem d hc)]
    rfl

theorem splitAll_bytes (t : Text) : splitAll slash t.bytes = (splitAll '/' t).map bytes := by
  induction t with
  | nil => rfl
  | cons c t ih =>
    by_cases hc : c = '/'
    · subst hc
      rw [bytes_slash_cons, splitAll_cons_self, splitAll_cons_self, ih]
      rfl
    · obtain ⟨part, parts, hparts, hcons⟩ := splitAll_cons_of_ne hc t
      rw [hparts, List.map_cons] at ih
      rw [bytes_cons, hcons, splitAll_append_of_not_mem
        (fun hmem ↦ hc (slash_mem_utf8EncodeChar.mp hmem)) ih, List.map_cons, bytes_cons]

theorem fromUTF8?_bytes (t : Text) :
    (String.fromUTF8? ⟨t.bytes.toArray⟩).map String.toList = some t := by
  have hbytes : (⟨t.bytes.toArray⟩ : ByteArray) = (String.ofList t).toByteArray := by
    rw [String.toByteArray_ofList, List.utf8Encode]
    exact ByteArray.ext List.data_toByteArray.symm
  have hstring : String.fromUTF8? ⟨t.bytes.toArray⟩ = some (String.ofList t) := by
    rw [hbytes]
    exact dif_pos (String.ofList t).isValidUTF8
  rw [hstring, Option.map_some, String.toList_ofList]

end Text

/-! ## Components of bytes -/

def Component.bytes : Component → Component UInt8
  | .root => .root
  | .here => .here
  | .up => .up
  | .normal name => .normal (Text.bytes name)

namespace Path

variable {p : Path}

def bytes (p : Path) : Path UInt8 := ⟨Text.bytes p.spelling⟩

theorem isAbsolute_bytes (p : Path) : p.bytes.isAbsolute = p.isAbsolute := by
  rw [isAbsolute, isAbsolute, bytes]
  cases p.spelling with
  | nil => rfl
  | cons c rest =>
    by_cases hc : c = '/'
    · rw [hc, Text.bytes_slash_cons]
      rfl
    · obtain ⟨b, bs, hb⟩ := List.exists_cons_of_ne_nil (String.utf8EncodeChar_ne_nil (c := c))
      have hslash : b ≠ slash := fun heq ↦
        hc (Text.slash_mem_utf8EncodeChar.mp (by rw [hb, heq]; exact List.mem_cons_self))
      have hchar : c ≠ slash := hc
      rw [Text.bytes_cons, hb]
      simp [hslash, hchar]

theorem segments_bytes (p : Path) : p.bytes.segments = p.segments.map Text.bytes := by
  have hbody : p.bytes.body = Text.bytes p.body := by
    rw [body, body, isAbsolute_bytes]
    by_cases h : p.isAbsolute = true
    · obtain ⟨rest, hrest⟩ := List.head?_eq_some_iff.mp (beq_iff_eq.mp h)
      rw [if_pos h, if_pos h, bytes, hrest, show (slash : Char) = '/' from rfl,
        Text.bytes_slash_cons]
      rfl
    · rw [if_neg h, if_neg h, bytes]
  rw [segments, segments, hbody]
  exact Text.splitAll_bytes p.body

theorem component?_bytes (leading : Bool) (segment : Text) :
    component? leading segment.bytes = (component? leading segment).map Component.bytes := by
  rw [component?, component?]
  simp only [Text.bytes_eq_nil_iff, Text.bytes_eq_here, Text.bytes_eq_up,
    show (dot : Char) = '.' from rfl]
  split
  · rfl
  · split
    · split <;> rfl
    · split <;> rfl

theorem components_bytes (p : Path) : p.bytes.components = p.components.map Component.bytes := by
  have hrest : ∀ segments : List Text, (segments.map Text.bytes).filterMap (component? false)
      = (segments.filterMap (component? false)).map Component.bytes := by
    intro segments
    rw [List.filterMap_map, List.map_filterMap]
    exact congrArg (List.filterMap · segments) (funext fun segment ↦ component?_bytes false segment)
  have hall : ∀ leading segments, componentsFrom leading (segments.map Text.bytes)
      = (componentsFrom leading segments).map Component.bytes := by
    intro leading segments
    cases segments with
    | nil => rfl
    | cons first rest =>
      rw [List.map_cons, componentsFrom, componentsFrom, List.map_append, hrest, component?_bytes]
      cases component? leading first <;> rfl
  rw [components_eq, components_eq, segments_bytes, isAbsolute_bytes, hall, List.map_append]
  cases p.isAbsolute <;> rfl

theorem fileName?_bytes (p : Path) : p.bytes.fileName? = p.fileName?.map Text.bytes := by
  rw [fileName?, fileName?, components_bytes, List.getLast?_map]
  rcases p.components.getLast? with _ | c
  · rfl
  · cases c <;> rfl

theorem stem_bytes (name : Text) :
    (splitExtension name.bytes).1 = Text.bytes (splitExtension name).1 := by
  by_cases hdot : '.' ∈ name
  · -- the last dot of the name
    obtain ⟨extension, stem, hreverse, hextension⟩ :=
      List.eq_append_cons_of_mem (List.mem_reverse.mpr hdot)
    obtain rfl : name = stem.reverse ++ '.' :: extension.reverse := by
      rw [← List.reverse_reverse name, hreverse]
      simp
    have htext : (dot : Char) ∉ extension.reverse := fun h ↦ hextension (List.mem_reverse.mp h)
    have hbytes : (dot : UInt8) ∉ Text.bytes extension.reverse :=
      fun h ↦ htext (Text.dot_mem_bytes.mp h)
    have hleft := splitExtension_append_dot (Text.bytes stem.reverse) hbytes
    have hright := splitExtension_append_dot stem.reverse htext
    rw [Text.bytes_append, Text.bytes_dot_cons, hleft]
    rw [show (dot : Char) = '.' from rfl] at hright
    rw [hright]
    by_cases hstem : stem.reverse = []
    · rw [if_pos hstem, if_pos (Text.bytes_eq_nil_iff.mpr hstem), Text.bytes_append,
        Text.bytes_dot_cons]
    · rw [if_neg hstem, if_neg (Text.bytes_eq_nil_iff.not.mpr hstem)]
  · have htext : (dot : Char) ∉ name := hdot
    have hbytes : (dot : UInt8) ∉ Text.bytes name := fun h ↦ hdot (Text.dot_mem_bytes.mp h)
    rw [splitExtension_of_not_mem htext, splitExtension_of_not_mem hbytes]

theorem viewIdOfBytes?_bytes (p : Path) : p.bytes.viewIdOfBytes? = p.viewId? := by
  have hstem : p.bytes.stem? = p.stem?.map Text.bytes := by
    rw [stem?, stem?, fileName?_bytes, Option.map_map, Option.map_map]
    exact congrArg (Option.map · p.fileName?) (funext stem_bytes)
  rw [viewIdOfBytes?, viewId?, hstem]
  cases p.stem? with
  | none => rfl
  | some stem => exact Text.fromUTF8?_bytes stem

end Path

end CompiledViews
