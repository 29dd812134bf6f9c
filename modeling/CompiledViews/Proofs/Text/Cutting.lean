import CompiledViews.Text.Property

/-!
# Cutting texts

Whatever is cut off a text, or cut out of it, the text is what its parts put together again give. So
each cut is described by an equation for the whole text, with what is known of the parts: blanks at
the ends, or a first part in which the separator does not occur.
-/

namespace CompiledViews.Text

variable {t part rest : Text} {c : Char}

theorem exists_trimStart (t : Text) :
    ∃ blanks, t = blanks ++ t.trimStart ∧ ∀ c ∈ blanks, isBlank c = true :=
  ⟨t.takeWhile isBlank, List.takeWhile_append_dropWhile.symm,
    List.all_eq_true.mp List.all_takeWhile⟩

theorem exists_trimEnd (t : Text) :
    ∃ blanks, t = t.trimEnd ++ blanks ∧ ∀ c ∈ blanks, isBlank c = true := by
  obtain ⟨blanks, heq, hblank⟩ := exists_trimStart t.reverse
  refine ⟨blanks.reverse, ?_, fun c hc ↦ hblank c (List.mem_reverse.mp hc)⟩
  rw [trimEnd, ← List.reverse_append, ← trimStart, ← heq, List.reverse_reverse]

theorem exists_trim (t : Text) : ∃ before after, t = before ++ t.trim ++ after ∧
    (∀ c ∈ before, isBlank c = true) ∧ ∀ c ∈ after, isBlank c = true := by
  obtain ⟨before, heq, hbefore⟩ := exists_trimStart t
  obtain ⟨after, hend, hafter⟩ := exists_trimEnd t.trimStart
  refine ⟨before, after, ?_, hbefore, hafter⟩
  rw [trim, List.append_assoc, ← hend]
  exact heq

theorem splitOnce?_eq_some (h : t.splitOnce? c = some (part, rest)) :
    t = part ++ c :: rest ∧ c ∉ part := by
  rw [splitOnce?] at h
  split at h
  · cases h
  · next d tail hdrop =>
    cases h
    have hd : d = c := by
      have hhead := List.head?_dropWhile_not (· != c) t
      rw [hdrop] at hhead
      simpa using hhead
    subst hd
    refine ⟨?_, fun hmem ↦ ?_⟩
    · rw [← hdrop, List.takeWhile_append_dropWhile]
    · have hne := List.all_eq_true.mp List.all_takeWhile d hmem
      simp at hne

theorem dropEnding?_eq_some_iff {ending : Text} :
    dropEnding? ending t = some rest ↔ t = rest ++ ending := by
  rw [dropEnding?, Option.map_eq_some_iff]
  constructor
  · rintro ⟨reversed, hdrop, rfl⟩
    have heq := congrArg List.reverse (dropBeginning?_eq_some_iff.mp hdrop)
    simpa using heq
  · rintro rfl
    exact ⟨rest.reverse, by simp [dropBeginning?_eq_some_iff], List.reverse_reverse rest⟩

theorem join_append {α : Type} (separator : List α) {first second : List (List α)}
    (hfirst : first ≠ []) (hsecond : second ≠ []) :
    join separator (first ++ second)
      = join separator first ++ (separator ++ join separator second) := by
  induction first with
  | nil => exact absurd rfl hfirst
  | cons part parts ih =>
    cases parts with
    | nil =>
      obtain ⟨next, others, rfl⟩ := List.exists_cons_of_ne_nil hsecond
      exact List.append_assoc ..
    | cons next others =>
      have hjoin : ∀ rest, join separator (part :: next :: rest)
          = part ++ separator ++ join separator (next :: rest) := fun rest ↦ rfl
      rw [List.cons_append, List.cons_append, hjoin, ← List.cons_append,
        ih (List.cons_ne_nil next others), hjoin, List.append_assoc (part ++ separator)]

theorem mem_of_mem_trim (h : c ∈ t.trim) : c ∈ t := by
  obtain ⟨before, after, heq, -, -⟩ := t.exists_trim
  rw [heq]
  simp [h]

end CompiledViews.Text
