import CompiledViews.Data.Toml
import CompiledViews.Settings.Basic

/-!
# What a settings file says

The sections of a settings file, before anything is resolved. Keys that mean nothing here are passed
over, as long as no number under them is too large to be held; a key with a value of the wrong kind
makes the whole file wrong. A section may also be written as an array of its values, in the order of
its keys, and a date stands for a section without any.
-/

namespace CompiledViews.Settings

/-- A settings file as it is written. -/
structure File where
  root : Option Text := none
  relative : RelativeDirectories := {}
  engine : EngineSettings := {}
  /-- The views and the data file of each entry. -/
  controllers : List (List Text × Text) := []

open Toml

mutual

/-- Whether all numbers of an item can be held. -/
def isHeld : Item → Bool
  | .number spelling => Toml.isHeld spelling
  | .array elements => areHeld elements
  | .table _ table => isHeldTable table
  | .tables all => areHeldTables all
  | .string _ => true
  | .boolean _ => true
  | .date _ => true

/-- Whether all numbers of some items can be held. -/
def areHeld : List Item → Bool
  | [] => true
  | item :: rest => isHeld item && areHeld rest

/-- Whether all numbers of a table can be held. -/
def isHeldTable : List (Text × Item) → Bool
  | [] => true
  | (_, item) :: rest => isHeld item && isHeldTable rest

/-- Whether all numbers of some tables can be held. -/
def areHeldTables : List (List (Text × Item)) → Bool
  | [] => true
  | table :: rest => isHeldTable table && areHeldTables rest

end

/-- The items of a table under the names of its keys; none if a number under another key cannot be
held. -/
def tableItems? (keys : List String) (table : Table) : Option (List (Option Item)) :=
  let isOther (entry : Text × Item) := !(keys.map String.toList).contains entry.1
  if isHeldTable (table.filter isOther) then some (keys.map fun key ↦ table.lookup key.toList)
  else none

/-- The items of a section, under the names of its keys; none if the item is no section. Of an array
the elements beyond the keys are not looked at. -/
def sectionItems? (keys : List String) : Item → Option (List (Option Item))
  | .table _ table => tableItems? keys table
  | .array elements => some ((List.range keys.length).map fun i ↦ elements[i]?)
  | .date _ => some (keys.map fun _ ↦ none)
  | _ => none

/-- The text of an item that may be missing. -/
def text? : Option Item → Option (Option Text)
  | none => some none
  | some (.string t) => some (some t)
  | some _ => none

def boolean? : Option Item → Option (Option Bool)
  | none => some none
  | some (.boolean b) => some (some b)
  | some _ => none

def texts? : Option Item → Option (Option (List Text))
  | none => some none
  | some (.array elements) => (elements.mapM fun element ↦ (text? (some element)).join).map some
  | some _ => none

def templates? (item : Item) : Option (Option Text × RelativeDirectories) := do
  match ← sectionItems? ["root", "views_dir", "cache_dir"] item with
  | [root, views, outputs] => return (← text? root, ⟨← text? views, ← text? outputs⟩)
  | _ => none

def engine? (item : Item) : Option EngineSettings := do
  let keys := ["active", "sanitize_filter", "capabilities", "force_recompile"]
  match ← sectionItems? keys item with
  | [active, filter, capabilities, force] =>
    let absent : EngineSettings := {}
    return {
      active := (← boolean? active).getD absent.active
      sanitizeFilter := (← text? filter).getD absent.sanitizeFilter
      capabilities := (← texts? capabilities).getD absent.capabilities
      force := (← boolean? force).getD absent.force }
  | _ => none

/-- Reads an entry of the list of data files; both keys must be there. -/
def controller? (item : Item) : Option (List Text × Text) := do
  match ← sectionItems? ["views", "data"] item with
  | [views, data] => return (← (← texts? views), ← (← text? data))
  | _ => none

def controllers? : Item → Option (List (List Text × Text))
  | .array elements => elements.mapM controller?
  | .tables all => all.mapM fun table ↦ controller? (.table .header table)
  | _ => none

/-- Reads an item with `read?`, if it is there. -/
def optionally {α : Type} (absent : α) (read? : Item → Option α) : Option Item → Option α
  | none => some absent
  | some item => read? item

def File.parse? (document : Text) : Option File := do
  let table ← Toml.parse? document
  match ← tableItems? ["templates", "engine", "controllers"] table with
  | [templates, engine, controllers] =>
    let (root, relative) ← optionally (none, {}) templates? templates
    return {
      root, relative
      engine := ← optionally {} engine? engine
      controllers := ← optionally [] controllers? controllers }
  | _ => none

end CompiledViews.Settings
