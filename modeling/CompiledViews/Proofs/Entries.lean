import CompiledViews.Data.Entries
import Mathlib.Data.Char
import Mathlib.Data.List.Lex

/-!
# Entries as mappings

Entries that are in order have each key once, so they are determined by the values of their keys:
two ways to build entries come to the same if they agree about every key. Insertion and merging keep
the order, and of several values of a key the last one counts.
-/

namespace CompiledViews

theorem Text.precedes_iff_lt {s t : Text} : s.precedes t = true ↔ s < t := by
  induction s generalizing t with
  | nil => cases t <;> simp [precedes]
  | cons a s ih =>
    cases t with
    | nil => simp [precedes]
    | cons b t => simp [precedes, ih, List.cons_lt_cons_iff]

namespace Entries

variable {α : Type} {entries other : Entries α} {key : Text} {value : α} {entry : Text × α}

/-! ## What is in entries -/

theorem mem_insert (h : entry ∈ entries.insert key value) :
    entry = (key, value) ∨ entry ∈ entries := by
  induction entries with
  | nil => exact .inl (List.mem_singleton.mp h)
  | cons first rest ih =>
    obtain ⟨k, v⟩ := first
    rw [insert] at h
    split at h
    · exact (List.mem_cons.mp h).imp_right (List.mem_cons_of_mem _)
    · split at h
      · exact List.mem_cons.mp h
      · rcases List.mem_cons.mp h with rfl | h
        · exact .inr List.mem_cons_self
        · exact (ih h).imp_right (List.mem_cons_of_mem _)

theorem mem_merge (h : entry ∈ entries.merge other) : entry ∈ entries ∨ entry ∈ other := by
  induction other generalizing entries with
  | nil => exact .inl h
  | cons first rest ih =>
    rcases ih h with h | h
    · rcases mem_insert h with rfl | h
      · exact .inr List.mem_cons_self
      · exact .inl h
    · exact .inr (List.mem_cons_of_mem _ h)

theorem mem_ofList {entries : List (Text × α)} (h : entry ∈ ofList entries) : entry ∈ entries :=
  (mem_merge h).resolve_left List.not_mem_nil

theorem mem_of_get? (h : entries.get? key = some value) : (key, value) ∈ entries := by
  obtain ⟨before, after, rfl, -⟩ := List.lookup_eq_some_iff.mp h
  exact List.mem_append_right _ List.mem_cons_self

theorem mem_keys_iff : key ∈ entries.keys ↔ (entries.get? key).isSome = true := by
  rw [keys, get?, List.lookup_isSome_iff, List.mem_map]
  constructor
  · rintro ⟨entry, hentry, rfl⟩
    exact ⟨entry, hentry, beq_self_eq_true _⟩
  · rintro ⟨entry, hentry, hkey⟩
    exact ⟨entry, hentry, (beq_iff_eq.mp hkey).symm⟩

theorem lookup_eq_some_of_nodup {entries : List (Text × α)} (h : (entries.map (·.1)).Nodup) :
    entries.lookup key = some value ↔ (key, value) ∈ entries := by
  rw [List.lookup_eq_some_iff]
  constructor
  · rintro ⟨before, after, rfl, -⟩
    simp
  · intro hmem
    obtain ⟨before, after, rfl⟩ := List.append_of_mem hmem
    refine ⟨before, after, rfl, fun earlier hearlier ↦ bne_iff_ne.mpr fun heq ↦ ?_⟩
    rw [List.map_append, List.nodup_append] at h
    exact h.2.2 _ (List.mem_map_of_mem hearlier) key (by simp) heq.symm

/-- Of the values that a key is given one after the other, the last one is kept. -/
theorem get?_merge (entries other : Entries α) (key : Text) :
    (entries.merge other).get? key = (List.lookup key other.reverse).or (entries.get? key) := by
  rw [merge]
  induction other generalizing entries with
  | nil => rfl
  | cons entry rest ih =>
    obtain ⟨k, v⟩ := entry
    rw [List.foldl_cons, ih, get?_insert, List.reverse_cons, List.lookup_append, Option.or_assoc]
    by_cases h : key = k
    · rw [if_pos h, h, List.lookup_cons_self, Option.some_or]
    · rw [if_neg h, List.lookup_cons, beq_false_of_ne h, List.lookup_nil, Option.none_or]

theorem get?_ofList (entries : List (Text × α)) (key : Text) :
    (ofList entries).get? key = List.lookup key entries.reverse := by
  rw [ofList, get?_merge]
  exact Option.or_none

/-! ## Order -/

/-- Whether the keys of entries are in increasing order. -/
def Ordered (entries : Entries α) : Prop := entries.Pairwise fun a b ↦ a.1 < b.1

namespace Ordered

theorem insert (h : entries.Ordered) (key : Text) (value : α) :
    (entries.insert key value).Ordered := by
  induction entries with
  | nil => exact List.pairwise_singleton _ _
  | cons first rest ih =>
    obtain ⟨k, v⟩ := first
    obtain ⟨hfirst, hrest⟩ := List.pairwise_cons.mp h
    rw [Entries.insert]
    split
    · next hk => exact List.pairwise_cons.mpr ⟨fun b hb ↦ hk ▸ hfirst b hb, hrest⟩
    · next hk =>
      split
      · next hbefore =>
        have hlt : key < k := Text.precedes_iff_lt.mp hbefore
        refine List.pairwise_cons.mpr ⟨fun b hb ↦ ?_, h⟩
        rcases List.mem_cons.mp hb with rfl | hb
        · exact hlt
        · exact hlt.trans (hfirst b hb)
      · next hbefore =>
        have hlt : k < key :=
          lt_of_le_of_ne (not_lt.mp (Text.precedes_iff_lt.not.mp hbefore)) (Ne.symm hk)
        refine List.pairwise_cons.mpr ⟨fun b hb ↦ ?_, ih hrest⟩
        rcases mem_insert hb with rfl | hb
        · exact hlt
        · exact hfirst b hb

theorem merge (h : entries.Ordered) (other : Entries α) : (entries.merge other).Ordered := by
  rw [Entries.merge]
  induction other generalizing entries with
  | nil => exact h
  | cons entry rest ih => exact ih (h.insert _ _)

theorem nodup_keys (h : entries.Ordered) : (entries.map (·.1)).Nodup :=
  List.pairwise_map.mpr (List.Pairwise.imp ne_of_lt h)

theorem nodup (h : entries.Ordered) : entries.Nodup :=
  List.Pairwise.imp (fun hlt heq ↦ (heq ▸ hlt).false) h

theorem get?_eq_some_iff (h : entries.Ordered) :
    entries.get? key = some value ↔ (key, value) ∈ entries :=
  lookup_eq_some_of_nodup h.nodup_keys

theorem ext (h : entries.Ordered) (h' : other.Ordered)
    (heq : ∀ key, entries.get? key = other.get? key) : entries = other := by
  have hmem : ∀ entry, entry ∈ entries ↔ entry ∈ other := fun ⟨key, value⟩ ↦ by
    rw [← h.get?_eq_some_iff, heq, h'.get?_eq_some_iff]
  exact List.Perm.eq_of_pairwise (fun a b _ _ hab hba ↦ absurd hab hba.asymm) h h'
    ((List.perm_ext_iff_of_nodup h.nodup h'.nodup).mpr hmem)

/-- It does not matter from which end the value of a key is looked for. -/
theorem lookup_reverse (h : entries.Ordered) (key : Text) :
    List.lookup key entries.reverse = entries.get? key := by
  have hreverse : (entries.reverse.map (·.1)).Nodup := by
    rw [List.map_reverse]
    exact List.pairwise_reverse.mpr (h.nodup_keys.imp Ne.symm)
  refine Option.ext fun value ↦ ?_
  rw [lookup_eq_some_of_nodup hreverse, List.mem_reverse, h.get?_eq_some_iff]

theorem merge_assoc (h : entries.Ordered) (h' : other.Ordered) (more : List (Text × α)) :
    entries.merge (other.merge more) = (entries.merge other).merge more := by
  refine (h.merge _).ext ((h.merge _).merge _) fun key ↦ ?_
  rw [get?_merge, (h'.merge more).lookup_reverse, get?_merge, get?_merge, get?_merge,
    h'.lookup_reverse, Option.or_assoc]

end Ordered

end Entries

end CompiledViews
