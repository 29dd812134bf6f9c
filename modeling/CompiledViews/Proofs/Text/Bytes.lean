import CompiledViews.Disk.Lookup

/-!
# Texts in bytes

Positions are counted in bytes of UTF-8, texts are lists of characters. The two go together where a
text is cut between characters: the position of the cut is the number of bytes before it, and the
bytes between two cuts are those of the text between them.
-/

namespace CompiledViews.Text

open Disk (decode encode)

variable {s t u : Text}

theorem utf8Length_cons (c : Char) (t : Text) : utf8Length (c :: t) = c.utf8Size + t.utf8Length :=
  rfl

theorem utf8Length_append (s t : Text) :
    utf8Length (s ++ t) = s.utf8Length + t.utf8Length := by
  induction s with
  | nil => simp [utf8Length]
  | cons c s ih => rw [List.cons_append, utf8Length_cons, ih, utf8Length_cons, Nat.add_assoc]

theorem utf8Length_pos (h : t ≠ []) : 0 < t.utf8Length := by
  obtain ⟨c, cs, rfl⟩ := List.exists_cons_of_ne_nil h
  have hc := c.utf8Size_pos
  rw [utf8Length_cons]
  omega

theorem decode_encode (t : Text) : decode (encode t) = .ok t := by
  have hvalid : (encode t).IsValidUTF8 := (String.ofList t).isValidUTF8
  have hstring : String.fromUTF8? (encode t) = some (String.ofList t) := dif_pos hvalid
  rw [decode, hstring]
  simp

theorem encode_append (s t : Text) : encode (s ++ t) = encode s ++ encode t := by
  rw [encode, String.ofList_append]
  exact String.toByteArray_append

theorem size_encode (t : Text) : (encode t).size = t.utf8Length := by
  have hencode : ∀ t : Text, encode t = t.utf8Encode := fun t ↦ String.toByteArray_ofList
  induction t with
  | nil => rfl
  | cons c t ih =>
    rw [hencode] at ih ⊢
    rw [List.utf8Encode_cons, ByteArray.size_append, ih, utf8Length_cons,
      List.utf8Encode_singleton, List.size_toByteArray, String.length_utf8EncodeChar]

theorem extract_encode (s t u : Text) :
    (encode (s ++ t ++ u)).extract s.utf8Length (s ++ t).utf8Length = encode t := by
  have hbefore : (encode (s ++ t)).extract s.utf8Length (s ++ t).utf8Length = encode t := by
    rw [encode_append]
    refine ByteArray.extract_append_eq_right (size_encode s).symm ?_
    rw [utf8Length_append, size_encode, size_encode]
  rw [encode_append, ← size_encode (s ++ t), ByteArray.extract_append_size_left, size_encode,
    hbefore]

/-- Whether a position in bytes lies between two characters of the text, or at one of its ends. -/
def IsBoundary (t : Text) (position : Nat) : Prop :=
  (⟨position⟩ : String.Pos.Raw).IsValid (String.ofList t)

theorem isBoundary_utf8Length (s t : Text) : (s ++ t).IsBoundary s.utf8Length := by
  refine String.Pos.Raw.isValid_iff_exists_append.mpr
    ⟨String.ofList s, String.ofList t, String.ofList_append, ?_⟩
  ext
  change s.utf8Length = (String.ofList s).toByteArray.size
  exact (size_encode s).symm

/-- Of two beginnings of a text the one with fewer bytes is a beginning of the other. -/
theorem prefix_of_utf8Length_le (hs : s <+: u) (ht : t <+: u)
    (hle : s.utf8Length ≤ t.utf8Length) : s <+: t := by
  obtain h | ⟨middle, rfl⟩ := List.prefix_or_prefix_of_prefix hs ht
  · exact h
  · -- then there is nothing between the two
    by_cases hmiddle : middle = []
    · subst hmiddle
      exact ⟨[], by simp⟩
    · have hpos := utf8Length_pos hmiddle
      rw [utf8Length_append] at hle
      omega

end CompiledViews.Text
