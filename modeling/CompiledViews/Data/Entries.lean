import CompiledViews.Text.Basic

/-!
# Entries in the order of their keys

A mapping is the list of its entries, each key once, in increasing order of the keys. Keys are
compared by code points, which is also the order of their bytes in UTF-8.
-/

namespace CompiledViews

/-- Whether the first text comes before the second. -/
def Text.precedes : Text → Text → Bool
  | _, [] => false
  | [], _ :: _ => true
  | a :: as, b :: bs => a < b || (a == b && precedes as bs)

/-- A list of entries by key. -/
abbrev Entries (α : Type) := List (Text × α)

namespace Entries

variable {α : Type}

/-- The entries with the value of `key` set, in its place. -/
def insert (key : Text) (value : α) : Entries α → Entries α
  | [] => [(key, value)]
  | (k, v) :: rest =>
    if key = k then (key, value) :: rest
    else if key.precedes k then (key, value) :: (k, v) :: rest
    else (k, v) :: insert key value rest

def get? (entries : Entries α) (key : Text) : Option α := entries.lookup key

/-- The entries of both; where both have a key, the value is that of `other`. -/
def merge (entries other : Entries α) : Entries α :=
  other.foldl (fun all entry ↦ all.insert entry.1 entry.2) entries

/-- Entries from any list; of several values of a key the last one is kept. -/
def ofList (entries : List (Text × α)) : Entries α := merge [] entries

def keys (entries : Entries α) : List Text := entries.map (·.1)

theorem get?_insert (entries : Entries α) (key other : Text) (value : α) :
    (entries.insert key value).get? other =
      if other = key then some value else entries.get? other := by
  induction entries with
  | nil =>
    by_cases h : other = key
    · simp [insert, get?, h]
    · simp [insert, get?, List.lookup_cons, h, beq_eq_false_iff_ne.mpr h]
  | cons entry rest ih =>
    obtain ⟨k, v⟩ := entry
    simp only [get?] at ih ⊢
    simp only [insert]
    split
    · next h =>
      subst h
      by_cases e : other = key
      · simp [e]
      · simp [List.lookup_cons, e, beq_eq_false_iff_ne.mpr e]
    · next h =>
      split
      · by_cases e : other = key
        · simp [e]
        · simp [List.lookup_cons, e, beq_eq_false_iff_ne.mpr e]
      · by_cases e : other = k
        · subst e
          simp [Ne.symm h]
        · simp [List.lookup_cons, beq_eq_false_iff_ne.mpr e, ih]

end Entries

end CompiledViews
