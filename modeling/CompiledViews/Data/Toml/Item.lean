import CompiledViews.Text.Basic

/-!
# TOML items

A TOML document is put together in pieces: a header says where the keys below it belong, and a
dotted key leads further down. Most of what can be wrong with a document is about putting things
where something is already, so a table remembers how it came about, which decides who may add to it.
-/

namespace CompiledViews.Toml

/-- How a table came about. -/
inductive Origin
  /-- On the way to a table with a header of its own. -/
  | implicit
  /-- By its own header. -/
  | header
  /-- By a dotted key. -/
  | dotted
  /-- In braces, complete. -/
  | inline
  deriving DecidableEq

/-- What a key stands for. Numbers and dates are told apart from text, no more. -/
inductive Item
  | string (t : Text)
  | boolean (b : Bool)
  | number (spelling : Text)
  | date (spelling : Text)
  | array (elements : List Item)
  | table (origin : Origin) (entries : List (Text × Item))
  /-- Tables that were given one by one, each by a header. -/
  | tables (all : List (List (Text × Item)))
  deriving Inhabited

/-- The entries of a table, in the order of the document. -/
abbrev Table := List (Text × Item)

namespace Table

/-- A table with the item of a key set, in its place or at the end. -/
def set (key : Text) (item : Item) : Table → Table
  | [] => [(key, item)]
  | (k, i) :: rest => if k = key then (key, item) :: rest else (k, i) :: set key item rest

/-- Puts an item where a dotted key leads. Tables on the way are made, or belong to dotted keys or
to nobody in particular; the place itself must be free. -/
def putDotted (item : Item) : (key : List Text) → Table → Option Table
  | [], _ => none
  | [name], table =>
    match table.lookup name with
    | none => some (set name item table)
    | some _ => none
  | name :: rest, table =>
    match table.lookup name with
    | none => (putDotted item rest []).map fun inner ↦ set name (.table .dotted inner) table
    | some (.table origin inner) =>
      if origin = .dotted ∨ origin = .implicit then
        (putDotted item rest inner).map fun inner ↦ set name (.table origin inner) table
      else none
    | some _ => none

/-- Changes the last table of several. -/
def changeLast (change : Table → Option Table) : List Table → Option (List Table)
  | [] => none
  | [last] => (change last).map fun table ↦ [table]
  | first :: rest => (changeLast change rest).map (first :: ·)

/-- Changes the table that a header leads to. Of tables given one by one it leads to the last. -/
def changeAt (change : Table → Option Table) : (header : List Text) → Table → Option Table
  | [], table => change table
  | name :: rest, table =>
    match table.lookup name with
    | none => (changeAt change rest []).map fun inner ↦ set name (.table .implicit inner) table
    | some (.table origin inner) =>
      if origin = .inline then none
      else (changeAt change rest inner).map fun inner ↦ set name (.table origin inner) table
    | some (.tables all) =>
      (changeLast (changeAt change rest) all).map fun all ↦ set name (.tables all) table
    | some _ => none

/-- Opens a table by its header, which may be done once. -/
def openTable (name : Text) (table : Table) : Option Table :=
  match table.lookup name with
  | none => some (set name (.table .header []) table)
  | some (.table .implicit inner) => some (set name (.table .header inner) table)
  | some _ => none

/-- Opens one more of the tables that are given one by one. -/
def openNext (name : Text) (table : Table) : Option Table :=
  match table.lookup name with
  | none => some (set name (.tables [[]]) table)
  | some (.tables all) => some (set name (.tables (all ++ [[]])) table)
  | some _ => none

end Table

end CompiledViews.Toml
