import CompiledViews.Data.Value
import CompiledViews.Decimal.Shortest

/-!
# JSON

Reading is strict: nothing is allowed that the format does not have, a key given twice keeps its
last value, and nesting is limited. Integers that fit sixty-four bits stay integers; any other
number is a double, read as the machine would: the digits as an integer, times or divided by a power
of ten.

Writing is compact, with keys in order.
-/

namespace CompiledViews.Json

/-! ## Numbers -/

/-- A power of ten as the nearest double. -/
def powerOfTen (e : Nat) : Float := (Double.nearestDecimal false 1 e).toFloat

/-- The double `significand · 10 ^ exponent`, scaled by at most one power of ten at a time; none
when it is too large. `fuel` bounds the steps by which a very negative exponent is used up. -/
def scale : (fuel : Nat) → Float → (exponent : Int) → Option Double
  | fuel, x, exponent =>
    if exponent.natAbs ≤ 308 then
      if 0 ≤ exponent then
        let y := x * powerOfTen exponent.toNat
        if (Double.ofFloat y).isInfinite then none else some (.ofFloat y)
      else some (.ofFloat (x / powerOfTen (-exponent).toNat))
    else if x == 0 then some (.ofFloat x)
    else if 0 ≤ exponent then none
    else match fuel with
      | 0 => some (.ofFloat 0)
      | fuel + 1 => scale fuel (x / powerOfTen 308) (exponent + 308)

/-- Digits as they are taken in: the integer they make up and the power of ten to apply. From the
first digit that does not fit sixty-four bits on, those before the point only count towards the
power of ten, and those after it do not count at all. -/
structure Digits where
  significand : Nat := 0
  exponent : Int := 0
  full : Bool := false

/-- Takes in one digit, before the point or after it. -/
def Digits.push (afterPoint : Bool) (digits : Digits) (c : Char) : Digits :=
  let next := digits.significand * 10 + (c.toNat - '0'.toNat)
  if digits.full ∨ twoTo 64 ≤ next then
    { digits with full := true, exponent := digits.exponent + if afterPoint then 0 else 1 }
  else { digits with
    significand := next, exponent := digits.exponent - if afterPoint then 1 else 0 }

/-- The exponent part of a number, if it has one, and the rest; none if it is malformed. -/
def exponentPart (t : Text) : Option (Option Int × Text) :=
  match t with
  | c :: rest =>
    if c = 'e' ∨ c = 'E' then
      let (negative, rest) := match rest with
        | '+' :: rest => (false, rest)
        | '-' :: rest => (true, rest)
        | rest => (false, rest)
      let digits := rest.takeWhile Char.isDigit
      if digits.isEmpty then none
      else
        let magnitude : Int := digits.foldl (fun n c ↦ n * 10 + (c.toNat - '0'.toNat)) 0
        some (some (if negative then -magnitude else magnitude), rest.dropWhile Char.isDigit)
    else some (none, t)
  | [] => some (none, [])

/-- The fraction part of a number, if it has one, and the rest; none if it is malformed. -/
def fractionPart (t : Text) : Option (Option Text × Text) :=
  match t with
  | '.' :: rest =>
    let digits := rest.takeWhile Char.isDigit
    if digits.isEmpty then none else some (some digits, rest.dropWhile Char.isDigit)
  | _ => some (none, t)

/-- The value of a number written without a fraction and an exponent. -/
def integerValue (negative : Bool) (digits : Digits) : Option Value :=
  if digits.full then
    (scale 2 (Double.ofInt digits.significand).toFloat digits.exponent).map fun d ↦
      .double (if negative then .ofFloat (-d.toFloat) else d)
  else if !negative then some (.int digits.significand)
  else if digits.significand = 0 ∨ twoTo 63 < digits.significand then
    some (.double (.ofFloat (-(Double.ofInt digits.significand).toFloat)))
  else some (.int (-digits.significand))

/-- Reads a number without its sign. -/
def number (negative : Bool) (t : Text) : Option (Value × Text) := do
  let whole := t.takeWhile Char.isDigit
  if whole.isEmpty ∨ (1 < whole.length ∧ whole.head? = some '0') then none
  let digits := whole.foldl (Digits.push false) {}
  let (fraction, rest) ← fractionPart (t.dropWhile Char.isDigit)
  let (power, rest) ← exponentPart rest
  match fraction, power with
  | none, none => return (← integerValue negative digits, rest)
  | _, _ =>
    let digits := (fraction.getD []).foldl (Digits.push true) { digits with full := false }
    let exponent := digits.exponent + power.getD 0
    let magnitude ←
      if digits.significand = 0 then some (.ofFloat 0)
      else
        scale (exponent.natAbs / 308 + 1 |>.min 8) (Double.ofInt digits.significand).toFloat
          exponent
    return (.double (if negative then .ofFloat (-magnitude.toFloat) else magnitude), rest)

/-! ## Strings -/

def hexValue? (c : Char) : Option Nat :=
  if c.isDigit then some (c.toNat - '0'.toNat)
  else if 'a' ≤ c ∧ c ≤ 'f' then some (c.toNat - 'a'.toNat + 10)
  else if 'A' ≤ c ∧ c ≤ 'F' then some (c.toNat - 'A'.toNat + 10)
  else none

def hexNumber? (t : Text) : Option Nat :=
  t.foldl (fun n c ↦ do return (← n) * 16 + (← hexValue? c)) (some 0)

def shortEscape? : Char → Option Char
  | '"' => some '"'
  | '\\' => some '\\'
  | '/' => some '/'
  | 'b' => some '\x08'
  | 'f' => some '\x0c'
  | 'n' => some '\n'
  | 'r' => some '\r'
  | 't' => some '\t'
  | _ => none

/-- The character with this code point, unless it is a surrogate. -/
def character? (n : Nat) : Option Char := if n.isValidChar then some (Char.ofNat n) else none

/-- Reads a string after its opening quote. -/
def string : Text → Option (Text × Text)
  | [] => none
  | '"' :: rest => some ([], rest)
  | '\\' :: 'u' :: a :: b :: c :: d :: rest => do
    let unit ← hexNumber? [a, b, c, d]
    if 0xD800 ≤ unit ∧ unit ≤ 0xDBFF then
      match rest with
      | '\\' :: 'u' :: e :: f :: g :: h :: rest =>
        let low ← hexNumber? [e, f, g, h]
        if 0xDC00 ≤ low ∧ low ≤ 0xDFFF then
          let c ← character? (0x10000 + (unit - 0xD800) * 0x400 + (low - 0xDC00))
          let (t, rest) ← string rest
          return (c :: t, rest)
        else none
      | _ => none
    else
      let c ← character? unit
      let (t, rest) ← string rest
      return (c :: t, rest)
  | '\\' :: c :: rest => do
    let c ← shortEscape? c
    let (t, rest) ← string rest
    return (c :: t, rest)
  | c :: rest =>
    if c.toNat < 0x20 ∨ c = '\\' then none
    else do
      let (t, rest) ← string rest
      return (c :: t, rest)

/-! ## Values -/

/-- The blank characters of the format. -/
def isSpace (c : Char) : Bool := c == ' ' || c == '\n' || c == '\t' || c == '\r'

/-- The nesting that is refused. -/
def depthLimit : Nat := 128

/-- What a call of the reader is to read: a value, the elements after the first one's start, or the
entries of an object from a key on. -/
inductive Part
  | value
  | elements
  | entries

/-- What a part is read as. -/
def Part.Result : Part → Type
  | value => Value
  | elements => List Value
  | entries => List (Text × Value)

/-- Reads a part at the given depth of nesting. Every step within uses up a character, so the fuel
of `parse?` is never exhausted. -/
def part : (fuel : Nat) → (depth : Nat) → (what : Part) → Text → Option (what.Result × Text)
  | 0, _, _, _ => none
  | fuel + 1, depth, .value, t =>
    match t.dropWhile isSpace with
    | 'n' :: 'u' :: 'l' :: 'l' :: rest => some (Value.null, rest)
    | 't' :: 'r' :: 'u' :: 'e' :: rest => some (Value.bool true, rest)
    | 'f' :: 'a' :: 'l' :: 's' :: 'e' :: rest => some (Value.bool false, rest)
    | '"' :: rest => (string rest).map fun (s, rest) ↦ (Value.string s, rest)
    | '-' :: rest => number true rest
    | '[' :: rest =>
      if depthLimit ≤ depth + 1 then none
      else match rest.dropWhile isSpace with
        | ']' :: rest => some (Value.array [], rest)
        | rest => (part fuel (depth + 1) .elements rest).map fun (vs, rest) ↦ (Value.array vs, rest)
    | '\x7b' :: rest =>
      if depthLimit ≤ depth + 1 then none
      else match rest.dropWhile isSpace with
        | '\x7d' :: rest => some (Value.object [], rest)
        | rest =>
          (part fuel (depth + 1) .entries rest).map fun (es, rest) ↦ (Value.ofEntries es, rest)
    | rest => number false rest
  | fuel + 1, depth, .elements, t => do
    let (v, rest) ← part fuel depth .value t
    match rest.dropWhile isSpace with
    | ',' :: rest =>
      let (vs, rest) ← part fuel depth .elements rest
      return ((v :: vs : List Value), rest)
    | ']' :: rest => return (([v] : List Value), rest)
    | _ => none
  | fuel + 1, depth, .entries, t => do
    match t.dropWhile isSpace with
    | '"' :: rest =>
      let (key, rest) ← string rest
      match rest.dropWhile isSpace with
      | ':' :: rest =>
        let (v, rest) ← part fuel depth .value rest
        match rest.dropWhile isSpace with
        | ',' :: rest =>
          let (es, rest) ← part fuel depth .entries rest
          return (((key, v) :: es : List (Text × Value)), rest)
        | '\x7d' :: rest => return (([(key, v)] : List (Text × Value)), rest)
        | _ => none
      | _ => none
    | _ => none

/-- Reads a document: one value and nothing else but blanks. -/
def parse? (t : Text) : Option Value :=
  match part (2 * t.length + 1) 0 .value t with
  | some (v, rest) => if rest.all isSpace then some v else none
  | none => none

/-! ## Writing -/

/-- A character as it stands in a string. -/
def writeCharacter (c : Char) : Text :=
  match c with
  | '"' => ['\\', '"']
  | '\\' => ['\\', '\\']
  | '\x08' => ['\\', 'b']
  | '\x0c' => ['\\', 'f']
  | '\n' => ['\\', 'n']
  | '\r' => ['\\', 'r']
  | '\t' => ['\\', 't']
  | c =>
    if c.toNat < 0x20 then
      ['\\', 'u', '0', '0'] ++ (if c.toNat < 0x10 then ['0'] else []) ++ Nat.toDigits 16 c.toNat
    else [c]

def writeString (t : Text) : Text := '"' :: t.flatMap writeCharacter ++ ['"']

/-- The digits of an integer, with a minus sign if it is negative. -/
def writeInt (i : Int) : Text :=
  (if i < 0 then ['-'] else []) ++ Nat.toDigits 10 i.natAbs

mutual

/-- A value without any blanks. -/
def write : Value → Text
  | .null => "null".toList
  | .bool true => "true".toList
  | .bool false => "false".toList
  | .int i => writeInt i
  | .double d => d.toJson
  | .string t => writeString t
  | .array elements => '[' :: writeElements elements ++ [']']
  | .object entries => '\x7b' :: writeEntries entries ++ ['\x7d']

def writeElements : List Value → Text
  | [] => []
  | [v] => write v
  | v :: vs => write v ++ ',' :: writeElements vs

def writeEntries : List (Text × Value) → Text
  | [] => []
  | [(k, v)] => writeString k ++ ':' :: write v
  | (k, v) :: es => writeString k ++ ':' :: write v ++ ',' :: writeEntries es

end

end CompiledViews.Json
