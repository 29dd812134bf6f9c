import CompiledViews.Proofs.Disk.Trail
import CompiledViews.Proofs.Text.Bytes

/-!
# Names beside one another

A path may go on with a name of its own choosing: an artifact in its directory, a file that is
written before it gets its name. Whether such a path can be followed depends on the name only by its
length, so where one name can be looked for, any shorter one can.
-/

namespace CompiledViews

namespace Disk

/-- Where a name is looked for in some directory, any other name can be looked for too. -/
theorem follow_sibling {disk : Disk} {slashed : Bool} {location : Location} {names : List Text}
    {x y : Text} {d : Destination} (hy : IsStep y) (hlimit : y.utf8Length ≤ segmentLimit)
    (h : follow disk slashed location (names ++ [x]) = .ok d) :
    follow disk slashed location (names ++ [y])
      = .ok (.entry (reached location names) y slashed) := by
  induction names generalizing location with
  | nil =>
    rw [List.nil_append, follow, if_neg hy.1, if_neg hy.2, if_neg (Nat.not_lt_of_le hlimit),
      if_pos rfl, reached_nil]
  | cons name rest ih =>
    have hne : ∀ z : Text, rest ++ [z] ≠ [] := by simp
    rw [List.cons_append, follow] at h ⊢
    rw [reached]
    split at h
    · next hdot =>
      rw [if_pos hdot, if_pos hdot]
      exact ih h
    · next hdot =>
      rw [if_neg hdot, if_neg hdot]
      split at h
      · next hdots =>
        rw [if_pos hdots, if_pos hdots]
        exact ih h
      · next hdots =>
        rw [if_neg hdots, if_neg hdots]
        split at h
        · cases h
        · next hshort =>
          -- a name that is followed by another one is entered, whichever that is
          rw [if_neg hshort, if_neg (hne y)]
          rw [if_neg (hne x)] at h
          cases hnode : disk.node? (location ++ [name]) with
          | none =>
            rw [hnode] at h
            cases h
          | some node =>
            rw [hnode] at h
            cases node with
            | file content time => cases h
            | directory time => exact ih h

theorem eq_entry_of_follow {disk : Disk} {slashed : Bool} {location : Location} {names : List Text}
    {x : Text} {d : Destination} (hx : IsStep x)
    (h : follow disk slashed location (names ++ [x]) = .ok d) :
    d = .entry (reached location names) x slashed := by
  induction names generalizing location with
  | nil =>
    obtain ⟨rfl, -⟩ | ⟨rfl, -⟩ | ⟨-, -, rfl⟩ | ⟨-, hne, -⟩ := follow_cons_eq_ok h
    · exact absurd rfl hx.1
    · exact absurd rfl hx.2
    · rfl
    · exact absurd rfl hne
  | cons name rest ih =>
    obtain ⟨rfl, h⟩ | ⟨rfl, h⟩ | ⟨-, hnil, -⟩ | ⟨hstep, -, -, h⟩ := follow_cons_eq_ok h
    · exact ih h
    · exact ih h
    · simp at hnil
    · rw [reached_step hstep]
      exact ih h

end Disk

/-- Whether a text is one name, and so leads one step down. -/
structure Text.IsName (t : Text) : Prop where
  nonempty : t ≠ []
  slashless : '/' ∉ t
  step : Disk.IsStep t

namespace Text.IsName

variable {x y : Text}

theorem isAbsolute (h : x.IsName) : (⟨x⟩ : Path).isAbsolute = false := by
  cases x with
  | nil => rfl
  | cons c rest =>
    have hc : c ≠ '/' := fun heq ↦ h.slashless (by simp [heq])
    simp [Path.isAbsolute, PathSymbol.slash, hc]

theorem segments (h : x.IsName) : (⟨x⟩ : Path).segments = [x] := by
  rw [Path.segments, Path.body, if_neg (by simp [h.isAbsolute])]
  exact Text.splitAll_of_not_mem h.slashless

theorem names (h : x.IsName) : (⟨x⟩ : Path).names = [x] := by
  rw [Path.names, h.segments]
  simp [h.nonempty]

end Text.IsName

theorem Path.spelling_join (p : Path) {x : Text} (hx : x.IsName) :
    (p.join ⟨x⟩).spelling = p.opened ++ x := by
  rw [join_eq_opened hx.isAbsolute]

theorem Path.unslashed_join (p : Path) {x : Text} (hx : x.IsName) :
    (p.join ⟨x⟩).spelling.getLast? ≠ some '/' := by
  rw [p.spelling_join hx, List.getLast?_append, List.getLast?_eq_some_getLast hx.nonempty]
  exact fun hlast ↦ hx.slashless (Option.some.inj hlast ▸ List.getLast_mem hx.nonempty)

namespace Disk

variable {disk : Disk} {p : Path} {x y : Text} {d : Destination}

private theorem destination_join_eq (disk : Disk) (p : Path) (hx : x.IsName) :
    disk.destination (p.join ⟨x⟩) =
      if (p.join ⟨x⟩).spelling.contains '\x00' then .error .invalidInput
      else if (p.join ⟨x⟩).spelling = [] then .error .notFound
      else if pathLimit < Text.utf8Length (p.join ⟨x⟩).spelling then .error .invalidFilename
      else follow disk false (p.start disk.here) (p.names ++ [x]) := by
  have hstart : (if (p.join ⟨x⟩).isAbsolute then [] else disk.here) = p.start disk.here := by
    rw [Path.isAbsolute_join hx.isAbsolute]
    rfl
  have hnames : (p.join ⟨x⟩).segments.filter (· ≠ []) = p.names ++ [x] :=
    (Path.names_join hx.isAbsolute).trans (by rw [hx.names])
  rw [destination]
  dsimp only
  rw [hstart, hnames, decide_eq_false (p.unslashed_join hx)]

theorem eq_entry_of_destination (hx : x.IsName) (h : disk.destination (p.join ⟨x⟩) = .ok d) :
    d = .entry (p.goal disk.here) x false := by
  rw [destination_join_eq disk p hx] at h
  split at h
  · exact absurd h (by simp)
  · split at h
    · exact absurd h (by simp)
    · split at h
      · exact absurd h (by simp)
      · exact eq_entry_of_follow hx.step h

/-- Where a path can be followed that ends in a name, the same path with a name that is not longer
can be followed too. -/
theorem destination_sibling (hx : x.IsName) (hy : y.IsName) (hnul : '\x00' ∉ y)
    (hlimit : y.utf8Length ≤ segmentLimit) (hlength : y.utf8Length ≤ x.utf8Length)
    (h : disk.destination (p.join ⟨x⟩) = .ok d) :
    disk.destination (p.join ⟨y⟩) = .ok (.entry (p.goal disk.here) y false) := by
  rw [destination_join_eq disk p hy, p.spelling_join hy]
  rw [destination_join_eq disk p hx, p.spelling_join hx] at h
  split at h
  · cases h
  · next hfree =>
    split at h
    · cases h
    · split at h
      · cases h
      · next hshort =>
        -- what is checked of the whole path holds of the shorter one too
        rw [if_neg, if_neg, if_neg]
        · exact follow_sibling hy.step hlimit h
        · rw [Text.utf8Length_append] at hshort ⊢
          omega
        · simp [hy.nonempty]
        · simp only [List.contains_iff_mem, List.mem_append, not_or] at hfree ⊢
          exact ⟨hfree.1, hnul⟩

end Disk

end CompiledViews
