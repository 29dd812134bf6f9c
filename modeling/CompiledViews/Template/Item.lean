import CompiledViews.Data.Value
import CompiledViews.Decimal.Shortest
import CompiledViews.Template.Number
import CompiledViews.Text.Quoted

/-!
# The values of a template

A template computes with the data it is given, and with values that data do not have: what is
missing, strings known to be safe, mappings with keys of any kind, the position in a loop, series
that operations on lists and mappings give, and functions.

Comparison is a total preorder: values of different kinds are ordered by kind, and a list comes
before a mapping and both before a series. Equality is coarser than that: `1` and `true` are the
same number, and a list and a series with the same elements are equal.
-/

namespace CompiledViews.Template

/-- The pass that a loop is in. -/
structure Place where
  /-- Which loop it is, counted from the beginning of the rendering. -/
  loop : Nat
  index : Nat
  length : Nat

/-- A value of a template. -/
inductive Item
  /-- What a missing name, attribute or index stands for. -/
  | undefined
  | none
  | bool (b : Bool)
  | number (n : Number)
  /-- A string; a safe one is written without being escaped. -/
  | string (t : Text) (safe : Bool)
  | list (elements : List Item)
  /-- A mapping, in the order of its keys. What a loop tells about the pass it is in is a mapping as
  well, which remembers its place. -/
  | map (entries : List (Item × Item)) (place? : Option Place)
  /-- What an operation on lists or mappings gives: the elements that are met when it is gone
  through first, and those met from then on. -/
  | series (elements later : List Item)
  | function (name : Text)
  deriving Inhabited

namespace Item

/-- A string that is not known to be safe. -/
abbrev text (t : Text) : Item := string t false

/-- A number that is written or counted. -/
abbrev natural (n : Nat) : Item := number (.natural n)

/-- A series that is the same each time. -/
abbrev steady (elements : List Item) : Item := series elements elements

mutual

def ofValue : Value → Item
  | .null => none
  | .bool b => bool b
  | .int i => number (if 0 ≤ i then .natural i.toNat else .integer i)
  | .double d => number (.double d)
  | .string t => text t
  | .array elements => list (ofValues elements)
  | .object entries => map (ofEntries entries) Option.none

def ofValues : List Value → List Item
  | [] => []
  | v :: vs => ofValue v :: ofValues vs

/-- The entries of a mapping for those of an object. -/
def ofEntries : List (Text × Value) → List (Item × Item)
  | [] => []
  | (k, v) :: rest => (text k, ofValue v) :: ofEntries rest

end

/-- Whether the item counts as true in a condition. -/
def isTrue : Item → Bool
  | undefined => false
  | none => false
  | bool b => b
  | number (.double d) => !d.isZero
  | number n => n.whole != 0
  | string t _ => !t.isEmpty
  | list elements => !elements.isEmpty
  | map entries _ => !entries.isEmpty
  | series elements _ => !elements.isEmpty
  | function _ => true

/-- The item after it has been looked at once. -/
def visited : Item → Item
  | series _ later => steady later
  | item => item

/-- The number that an item is in arithmetic; truth values are `0` and `1`. -/
def number? : Item → Option Number
  | bool b => some (.integer b.toInt)
  | number n => some n
  | _ => Option.none

/-- The integer that an item is where a position or a count is asked for. -/
def index? (item : Item) : Option Int := item.number?.bind Number.index?

/-! ## Writing -/

mutual

/-- The item as it is shown inside a list or a mapping. -/
def shown : Item → Text
  | undefined => "undefined".toList
  | none => "None".toList
  | bool b => (if b then "True" else "False").toList
  | number (.double d) => d.displayInside
  | number n => (toString n.whole).toList
  | string t _ => t.quoted
  | list elements => '[' :: shownElements elements ++ [']']
  | map entries Option.none => '\x7b' :: shownEntries entries ++ ['\x7d']
  | map _ (some place) => s!"<loop {place.index}/{place.length}>".toList
  | series _ later => '[' :: shownElements later ++ [']']
  | function name => "<function ".toList ++ name ++ ['>']

/-- Elements as they are shown, with commas between them. -/
def shownElements : List Item → Text
  | [] => []
  | [x] => shown x
  | x :: y :: rest => shown x ++ ", ".toList ++ shownElements (y :: rest)

/-- Entries as they are shown, with commas between them. -/
def shownEntries : List (Item × Item) → Text
  | [] => []
  | [(k, v)] => shown k ++ ": ".toList ++ shown v
  | (k, v) :: y :: rest =>
    shown k ++ ": ".toList ++ shown v ++ ", ".toList ++ shownEntries (y :: rest)

end

/-- The item as it is printed, before escaping. -/
def printed : Item → Text
  | undefined => []
  | number (.double d) => d.display
  | string t _ => t
  | item => item.shown

/-- A character as it stands in a page. -/
def escapedCharacter (c : Char) : Text :=
  match c with
  | '&' => "&amp;".toList
  | '<' => "&lt;".toList
  | '>' => "&gt;".toList
  | '"' => "&quot;".toList
  | '\'' => "&#x27;".toList
  | '/' => "&#x2f;".toList
  | c => [c]

/-- The item as it is written to a page. -/
def escaped : Item → Text
  | string t true => t
  | item => item.printed.flatMap escapedCharacter

/-! ## Order and equality -/

/-- The place of an item's kind among the kinds. -/
def rank : Item → Nat
  | undefined => 0
  | none => 1
  | bool _ => 2
  | number _ => 3
  | string .. => 4
  | list _ => 5
  | map .. => 6
  | series .. => 7
  | function _ => 8

/-- Texts by code points. -/
def compareTexts (s t : Text) : Ordering :=
  if s = t then .eq else if s.precedes t then .lt else .gt

mutual

def compare : Item → Item → Ordering
  | bool a, bool b => Ord.compare a.toNat b.toNat
  | number m, number n => m.compare n
  | string s _, string t _ => compareTexts s t
  | list xs, list ys => compareElements xs ys
  | map xs _, map ys _ => compareEntries xs ys
  | series xs _, series ys _ => compareElements xs ys
  | function f, function g => compareTexts f g
  | a, b => Ord.compare a.rank b.rank

/-- Lists by their first difference. -/
def compareElements : List Item → List Item → Ordering
  | [], [] => .eq
  | [], _ :: _ => .lt
  | _ :: _, [] => .gt
  | x :: xs, y :: ys => (compare x y).then (compareElements xs ys)

def compareEntries : List (Item × Item) → List (Item × Item) → Ordering
  | [], [] => .eq
  | [], _ :: _ => .lt
  | _ :: _, [] => .gt
  | (k, v) :: xs, (l, w) :: ys => ((compare k l).then (compare v w)).then (compareEntries xs ys)

end

/-- The value of a key. -/
def lookUp (key : Item) : List (Item × Item) → Option Item
  | [] => Option.none
  | (k, v) :: rest => if key.compare k == .eq then some v else lookUp key rest

mutual

/-- Whether two items are equal. Numbers and truth values are so by value, whatever their kinds, and
lists and series element by element. -/
def isEqual : Item → Item → Bool
  | undefined, undefined => true
  | none, none => true
  | string s _, string t _ => s == t
  | list xs, list ys => areEqual xs ys
  | list xs, series ys _ => areEqual xs ys
  | series xs _, list ys => areEqual xs ys
  | series xs _, series ys _ => areEqual xs ys
  | map xs _, map ys _ => xs.length == ys.length && areFoundIn ys xs
  | function f, function g => f == g
  | a, b =>
    match a.number?, b.number? with
    | some m, some n => m.equals n
    | _, _ => false

/-- Whether two lists are equal element by element. -/
def areEqual : List Item → List Item → Bool
  | [], [] => true
  | x :: xs, y :: ys => isEqual x y && areEqual xs ys
  | _, _ => false

/-- Whether the values of all keys are equal to those that other entries have for them. -/
def areFoundIn (others : List (Item × Item)) : List (Item × Item) → Bool
  | [] => true
  | (k, v) :: rest =>
    (match lookUp k others with
      | some w => isEqual v w
      | Option.none => false) && areFoundIn others rest

end

/-! ## Looking inside -/

/-- Entries with the value of a key set. -/
def insert (key value : Item) : List (Item × Item) → List (Item × Item)
  | [] => [(key, value)]
  | (k, v) :: rest =>
    match key.compare k with
    | .lt => (key, value) :: (k, v) :: rest
    | .eq => (k, value) :: rest
    | .gt => (k, v) :: insert key value rest

/-- A mapping, from entries in any order; of several values of a key the last one is kept. -/
def ofPairs (pairs : List (Item × Item)) : Item :=
  map (pairs.foldl (fun entries pair ↦ insert pair.1 pair.2 entries) []) Option.none

/-- What a loop tells about the pass it is in. -/
def ofPlace (place : Place) (previous next : Item) : Item :=
  let entry (name : String) (item : Item) := (text name.toList, item)
  map [
    entry "index0" (natural place.index),
    entry "index" (natural (place.index + 1)),
    entry "length" (natural place.length),
    entry "revindex" (natural (place.length - place.index)),
    entry "revindex0" (natural (place.length - place.index - 1)),
    entry "first" (bool (place.index == 0)),
    entry "last" (bool (place.index + 1 == place.length)),
    entry "depth" (natural 1),
    entry "depth0" (natural 0),
    entry "previtem" previous,
    entry "nextitem" next] (some place)

/-- The attribute `name`; undefined if there is none. -/
def getAttribute (name : Text) : Item → Item
  | map entries _ => (lookUp (text name) entries).getD undefined
  | _ => undefined

/-- The element of a list at an index, counted from the end if negative. -/
def atIndex (index : Int) (elements : List Item) : Item :=
  let position := if index < 0 then index + elements.length else index
  if position < 0 then undefined else (elements[position.toNat]?).getD undefined

/-- The one-letter strings of a text. -/
def letters (t : Text) : List Item := t.map fun c ↦ text [c]

/-- What stands under a subscript; undefined if nothing does. Counting from the end of a series
takes its length first, so a series is gone through again. -/
def subscript (key : Item) : Item → Item
  | list elements => (key.index?.map (atIndex · elements)).getD undefined
  | series elements later =>
    (key.index?.map fun i ↦ atIndex i (if i < 0 then later else elements)).getD undefined
  | string t _ => (key.index?.map (atIndex · (letters t))).getD undefined
  | map entries _ => (lookUp key entries).getD undefined
  | _ => undefined

/-- The elements of a list or a series, or the keys of a mapping. -/
def members? : Item → Option (List Item)
  | list elements => some elements
  | series elements _ => some elements
  | map entries _ => some (entries.map (·.1))
  | _ => Option.none

/-- What a loop over the item goes through, if it can go through it. -/
def elements? : Item → Option (List Item)
  | undefined => some []
  | none => some []
  | string t _ => some (letters t)
  | item => item.members?

end Item

end CompiledViews.Template
