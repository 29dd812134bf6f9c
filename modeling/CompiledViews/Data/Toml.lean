import CompiledViews.Data.Toml.Scalar

/-!
# TOML

Reading a TOML document as one table. A document is a sequence of lines: headers, and keys with
their values, which may go on over several lines within brackets. Neither keys nor brackets lead
deeper than a limit.
-/

namespace CompiledViews.Toml

/-- How many levels a key may lead down, and brackets may be nested. -/
def depthLimit : Nat := 80

/-! ## Keys -/

/-- A character of a key without quotes. -/
def isBareKey (c : Char) : Bool := c.isAlphanum || c == '_' || c == '-'

/-- Reads one part of a key. -/
def keyPart? (t : Text) : Option (Text × Text) :=
  match t with
  | '"' :: rest => lineString '"' 0 rest
  | '\'' :: rest => lineString '\'' 0 rest
  | t =>
    let name := t.takeWhile isBareKey
    if name.isEmpty then none else some (name, t.dropWhile isBareKey)

/-- Reads a key of at most this many parts and the blanks around it; dots lead from table to
table. -/
def keyOf? : (depth : Nat) → Text → Option (List Text × Text)
  | 0, _ => none
  | depth + 1, t => do
    let (name, rest) ← keyPart? (t.dropWhile isSpace)
    match rest.dropWhile isSpace with
    | '.' :: rest => (keyOf? depth rest).map (.map (name :: ·) id)
    | rest => return ([name], rest)

/-- Reads a key and the blanks around it. -/
def key? (t : Text) : Option (List Text × Text) := keyOf? depthLimit t

/-! ## Values -/

/-- What follows a comment, if one comes first; none if it has a character that must not stand in
it. -/
def skipComment? (t : Text) : Option Text :=
  match t with
  | '#' :: rest =>
    let after := rest.dropWhile isPrintable
    if after.isEmpty || (afterBreak? after).isSome then some after else none
  | t => some t

/-- Goes past blanks, comments and line breaks. -/
def skipLines? : (fuel : Nat) → Text → Option Text
  | 0, t => some t
  | fuel + 1, t => do
    let rest ← skipComment? (t.dropWhile isSpace)
    match afterBreak? rest with
    | some rest => skipLines? fuel rest
    | none => return rest

/-- What a call of the reader is to read, within brackets of so many more levels at most. -/
inductive Part
  | value (depth : Nat)
  | elements (depth : Nat)
  | entries (depth : Nat) (table : Table)

def Part.Result : Part → Type
  | value _ => Item
  | elements _ => List Item
  | entries .. => Table

/-- Reads values. Every step within uses up a character, so the fuel of `parse?` is never
exhausted. -/
def part? : (fuel : Nat) → (what : Part) → Text → Option (what.Result × Text)
  | 0, _, _ => none
  | fuel + 1, .value depth, t =>
    match t, depth with
    | '"' :: _, _ => (string? t).map fun (s, rest) ↦ (Item.string s, rest)
    | '\'' :: _, _ => (string? t).map fun (s, rest) ↦ (Item.string s, rest)
    | '[' :: rest, depth + 1 =>
      (part? fuel (.elements depth) rest).map fun (items, rest) ↦ (Item.array items, rest)
    | '\x7b' :: rest, depth + 1 =>
      (part? fuel (.entries depth []) rest).map fun (table, rest) ↦ (Item.table .inline table, rest)
    | _, _ => bareScalar? t
  | fuel + 1, .elements depth, t => do
    match ← skipLines? (t.length + 1) t with
    | ']' :: rest => return (([] : List Item), rest)
    | t =>
      let (item, rest) ← part? fuel (.value depth) t
      match ← skipLines? (rest.length + 1) rest with
      | ']' :: rest => return (([item] : List Item), rest)
      | ',' :: rest =>
        let (items, rest) ← part? fuel (.elements depth) rest
        return ((item :: items : List Item), rest)
      | _ => none
  | fuel + 1, .entries depth table, t => do
    match ← skipLines? (t.length + 1) t with
    | '\x7d' :: rest => return ((table : Table), rest)
    | t =>
      let (key, rest) ← key? t
      match rest with
      | '=' :: rest =>
        let (item, rest) ← part? fuel (.value depth) (rest.dropWhile isSpace)
        let table ← Table.putDotted item key table
        match ← skipLines? (rest.length + 1) rest with
        | '\x7d' :: rest => return ((table : Table), rest)
        | ',' :: rest => part? fuel (.entries depth table) rest
        | _ => none
      | _ => none

/-! ## Documents -/

/-- What follows the end of a line, before which a comment may stand. -/
def lineEnd? (t : Text) : Option Text := do
  let rest ← skipComment? (t.dropWhile isSpace)
  if rest.isEmpty then return rest else afterBreak? rest

/-- The table so far, and the header that keys are now put under. -/
structure Document where
  root : Table := []
  header : List Text := []

/-- Opens what a header names. -/
def Document.openHeader (document : Document) (header : List Text)
    (opening : Text → Table → Option Table) : Option Document := do
  let root ← Table.changeAt (opening (← header.getLast?)) header.dropLast document.root
  return ⟨root, header⟩

/-- Reads a header, or a key with its value, and the end of the line. -/
def line? (document : Document) (t : Text) : Option (Document × Text) := do
  match t with
  | '[' :: '[' :: rest =>
    let (header, rest) ← key? rest
    match rest with
    | ']' :: ']' :: rest =>
      return (← document.openHeader header Table.openNext, ← lineEnd? rest)
    | _ => none
  | '[' :: rest =>
    let (header, rest) ← key? rest
    match rest with
    | ']' :: rest => return (← document.openHeader header Table.openTable, ← lineEnd? rest)
    | _ => none
  | t =>
    let (key, rest) ← key? t
    match rest with
    | '=' :: rest =>
      let (item, rest) ← part? (2 * rest.length + 2) (.value depthLimit) (rest.dropWhile isSpace)
      let root ← Table.changeAt (Table.putDotted item key) document.header document.root
      return ({ document with root }, ← lineEnd? rest)
    | _ => none

def lines? : (fuel : Nat) → Document → Text → Option Table
  | 0, _, _ => none
  | fuel + 1, document, t => do
    match ← skipLines? (t.length + 1) t with
    | [] => return document.root
    | t =>
      let (document, rest) ← line? document t
      lines? fuel document rest

/-- Reads a document, which may begin with a byte order mark. -/
def parse? (document : Text) : Option Table :=
  let text := match document with
    | '\ufeff' :: rest => rest
    | t => t
  lines? (text.length + 1) {} text

end CompiledViews.Toml
