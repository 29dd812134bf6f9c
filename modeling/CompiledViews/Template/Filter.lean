import CompiledViews.Template.Operator
import CompiledViews.Text.LetterCase
import CompiledViews.Text.Property

/-!
# Filters and tests

A filter makes a value from a value and arguments; a test says something about it. These are the
ones every template has; a host may add filters, or put its own in the place of these. A few tests
look at more than the values, and get that as a further argument here.
-/

namespace CompiledViews.Template

/-- What functions, filters and tests do: a value for values, or a refusal. -/
abbrev Operation := List Item → Except Fault Item

namespace Operation

/-- The refusal of values for this reason. -/
def refuse (kind : FaultKind) : Except Fault Item := .error (.plain kind)

def ofOne (f : Item → Except FaultKind Item) : Operation
  | [] => refuse .missingArgument
  | [a] => (f a).mapError .plain
  | _ => refuse .tooManyArguments

/-- An operation on one value that is never refused. -/
def total (f : Item → Item) : Operation := ofOne (.ok <| f ·)

/-- An operation on one value with one argument that may be left out, or stand for being left
out. -/
def withOption (f : Item → Option Item → Except Fault Item) : Operation
  | [] => refuse .missingArgument
  | [a] => f a none
  | [a, .undefined] => f a none
  | [a, .none] => f a none
  | [a, b] => f a (some b)
  | _ => refuse .tooManyArguments

end Operation

namespace Filter

/-- The number of characters, elements or entries. -/
def size : Item → Except FaultKind Item
  | .string t _ => .ok (.natural t.length)
  | item =>
    match item.members? with
    | some members => .ok (.natural members.length)
    | none => .error .invalidOperation

/-- The value itself where it is defined, and else another one. With a third argument that counts as
true, a value that does not is replaced as well. -/
def orDefault : Operation
  | [] => Operation.refuse .missingArgument
  | [a] => .ok (if a matches .undefined then .text [] else a)
  | [a, other] => .ok (if a matches .undefined then other else a)
  | [a, other, lax] =>
    .ok (if a matches .undefined then other
      else if lax.isTrue then (if a.isTrue then a.visited else other)
      else a)
  | _ => Operation.refuse .tooManyArguments

/-- Puts the printed elements together, with a separator between them. -/
def join (a : Item) (separator? : Option Item) : Except Fault Item :=
  match a.elements? with
  | some elements =>
    .ok (.text (Text.join ((separator?.map Item.printed).getD []) (elements.map Item.printed)))
  | none => .error (.within .invalidOperation (.plain .invalidOperation))

/-- The first character, element or key. -/
def first : Item → Except FaultKind Item
  | .string t _ => .ok ((Item.letters t).headD .undefined)
  | item =>
    match item.members? with
    | some members => .ok (members.headD .undefined)
    | none => .error .invalidOperation

/-- The last character or element. -/
def last : Item → Except FaultKind Item
  | .string t safe => .ok ((t.getLast?.map fun c ↦ .string [c] safe).getD .undefined)
  | .list elements => .ok (elements.getLastD .undefined)
  | .series elements _ => .ok (elements.getLastD .undefined)
  | _ => .error .invalidOperation

/-- The characters, elements or keys in reverse. Only when they are gone through first, the keys of
a mapping come so. -/
def reverse : Item → Except FaultKind Item
  | .undefined => .ok .undefined
  | .none => .ok .none
  | .string t safe => .ok (.string t.reverse safe)
  | .map entries none =>
    let keys := entries.map (·.1)
    .ok (.series keys.reverse keys)
  | item =>
    match item.members? with
    | some members => .ok (.steady members.reverse)
    | none => .error .invalidOperation

/-- Changes the printed value of an item; what is safe stays so. -/
def onText (f : Text → Text) : Item → Item
  | .string t safe => .string (f t) safe
  | item => .text (f item.printed)

/-- The printed value without blanks at its ends, or without the given characters. -/
def trim (a : Item) (characters? : Option Item) : Except Fault Item :=
  match characters? with
  | none => .ok (onText Text.trim a)
  | some characters =>
    let isListed (c : Char) := characters.printed.contains c
    .ok (onText (fun t ↦ ((t.dropWhile isListed).reverse.dropWhile isListed).reverse) a)

/-- The entries of a mapping as pairs. -/
def pairs : Item → Except FaultKind Item
  | .map entries _ => .ok (.steady (entries.map fun (k, v) ↦ .list [k, v]))
  | _ => .error .invalidOperation

/-- The filter of this name that every template has. -/
def builtin? (name : Text) : Option Operation :=
  match String.ofList name with
  | "upper" => some (.total (onText Text.toUpper))
  | "lower" => some (.total (onText Text.toLower))
  | "length" => some (.ofOne size)
  | "count" => some (.ofOne size)
  | "default" => some orDefault
  | "d" => some orDefault
  | "join" => some (.withOption join)
  | "first" => some (.ofOne first)
  | "last" => some (.ofOne last)
  | "reverse" => some (.ofOne reverse)
  | "trim" => some (.withOption trim)
  | "items" => some (.ofOne pairs)
  | "safe" => some (.total fun a ↦ .string a.printed true)
  | "escape" => some (.total fun a ↦ .string a.escaped true)
  | "e" => some (.total fun a ↦ .string a.escaped true)
  | _ => none

end Filter

namespace Test

/-- A test of one value. -/
def ofOne (f : Item → Bool) : Operation := .total fun a ↦ .bool (f a)

/-- A test that compares two values. -/
def ofTwo (f : Item → Item → Bool) : Operation
  | [a, b] => .ok (.bool (f a b))
  | [] => Operation.refuse .missingArgument
  | [_] => Operation.refuse .missingArgument
  | _ => Operation.refuse .tooManyArguments

/-- A comparison as a test; one that is refused does not hold. -/
def ofComparison (c : Comparison) : Operation := ofTwo fun a b ↦
  match c.apply a b with
  | .ok holds => holds
  | .error _ => false

/-- Whether the value is an integer with this remainder modulo two. -/
def hasParity (rest : Int) (a : Item) : Bool :=
  a.index?.any fun i ↦ Number.fits i && i % 2 == rest

/-- Whether the characters of a string all belong to a letter case. -/
def inCase (f : Char → Bool) : Operation := .ofOne fun
  | .string t _ => .ok (.bool (t.all f))
  | _ => .error .invalidOperation

/-- Whether the value is a whole number that is held as one. -/
def isInteger : Item → Bool
  | .number (.double _) => false
  | .number _ => true
  | _ => false

/-- Whether two values are one and the same: of one kind and equal. Two lists or mappings are so
only where they come from the same place. -/
def isSame (samePlace : Bool) (a b : Item) : Bool :=
  match a.members?, b.members? with
  | some _, some _ => samePlace
  | none, none => a.rank == b.rank && isInteger a == isInteger b && a.isEqual b
  | _, _ => false

/-- A test of a string, which stands for what has this name. -/
def ofName (isKnown : Text → Bool) : Operation := .ofOne fun
  | .string t _ => .ok (.bool (isKnown t))
  | _ => .error .invalidOperation

/-- Whether the second printed value stands at an end of the first one. -/
def hasAtEnd (f : Text → Text → Bool) (a b : Item) : Bool := f b.printed a.printed

def isMultiple (a b : Item) : Bool :=
  match a.number?, b.number? with
  | some m, some n =>
    match m.meet? Number.exactly? n with
    | some (.integers i j) => j != 0 && i % j == 0
    | some (.doubles x y) => (x.remainder y).isZero
    | none => false
  | _, _ => false

/-- The test of this name that every template has. -/
def builtin? (name : Text) : Option Operation :=
  match String.ofList name with
  | "defined" => some (ofOne fun a ↦ !a matches .undefined)
  | "undefined" => some (ofOne fun a ↦ a matches .undefined)
  | "none" => some (ofOne fun a ↦ a matches .none)
  | "true" => some (ofOne fun a ↦ a matches .bool true)
  | "false" => some (ofOne fun a ↦ a matches .bool false)
  | "boolean" => some (ofOne fun a ↦ a matches .bool _)
  | "odd" => some (ofOne (hasParity 1))
  | "even" => some (ofOne (hasParity 0))
  | "number" => some (ofOne fun a ↦ a matches .number _)
  | "integer" => some (ofOne isInteger)
  | "int" => some (ofOne isInteger)
  | "float" => some (ofOne fun a ↦ a matches .number (.double _))
  | "string" => some (ofOne fun a ↦ a matches .string ..)
  | "sequence" => some (ofOne fun a ↦ a matches .list _)
  | "mapping" => some (ofOne fun a ↦ a matches .map ..)
  | "iterable" => some (ofOne fun a ↦ a.elements?.isSome)
  | "safe" => some (ofOne fun a ↦ a matches .string _ true)
  | "escaped" => some (ofOne fun a ↦ a matches .string _ true)
  | "lower" => some (inCase Text.isSmall)
  | "upper" => some (inCase Text.isCapital)
  | "divisibleby" => some (ofTwo isMultiple)
  | "startingwith" => some (ofTwo (hasAtEnd List.isPrefixOf))
  | "endingwith" => some (ofTwo (hasAtEnd List.isSuffixOf))
  | "in" => some (ofComparison .member)
  | "eq" => some (ofComparison .equal)
  | "equalto" => some (ofComparison .equal)
  | "ne" => some (ofComparison .notEqual)
  | "lt" => some (ofComparison .less)
  | "lessthan" => some (ofComparison .less)
  | "le" => some (ofComparison .atMost)
  | "gt" => some (ofComparison .greater)
  | "greaterthan" => some (ofComparison .greater)
  | "ge" => some (ofComparison .atLeast)
  | _ => none

end Test

end CompiledViews.Template
