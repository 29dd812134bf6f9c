import CompiledViews.Data.Json
import CompiledViews.Data.Toml.Item

/-!
# TOML scalars

Strings come in four kinds, with or without escapes and on one line or several. Of numbers, dates
and times only the spelling is checked, and whether a number is one that a program can hold: nothing
here asks for their values.
-/

namespace CompiledViews.Toml

/-- A character that may stand in a comment or a string on one line. -/
def isPrintable (c : Char) : Bool := c == '\t' || (0x20 ≤ c.toNat && c.toNat != 0x7f)

def isSpace (c : Char) : Bool := c == ' ' || c == '\t'

/-- What follows a line break, if one comes first. -/
def afterBreak? : Text → Option Text
  | '\n' :: rest => some rest
  | '\r' :: '\n' :: rest => some rest
  | _ => none

/-! ## Strings -/

/-- The character of an escape of one letter. -/
def escapedCharacter? : Char → Option Char
  | 'b' => some '\x08'
  | 't' => some '\t'
  | 'n' => some '\n'
  | 'f' => some '\x0c'
  | 'r' => some '\r'
  | 'e' => some '\x1b'
  | '"' => some '"'
  | '\\' => some '\\'
  | _ => none

/-- The number of hexadecimal digits that an escape goes on with. -/
def escapeWidth? : Char → Option Nat
  | 'x' => some 2
  | 'u' => some 4
  | 'U' => some 8
  | _ => none

/-- Reads an escape after its backslash: the character, and how many characters it takes. -/
def readEscape : Text → Option (Char × Nat)
  | [] => none
  | c :: rest =>
    match escapedCharacter? c with
    | some d => some (d, 1)
    | none => do
      let width ← escapeWidth? c
      if rest.length < width then none
      let code ← Json.hexNumber? (rest.take width)
      return (← Json.character? code, width + 1)

/-- Reads a string on one line after its opening quote. The first `skip` characters belong to an
escape already read. -/
def lineString (quote : Char) : (skip : Nat) → Text → Option (Text × Text)
  | _, [] => none
  | skip + 1, _ :: rest => lineString quote skip rest
  | 0, c :: rest =>
    if c = quote then some ([], rest)
    else if quote = '"' ∧ c = '\\' then do
      let (d, width) ← readEscape rest
      let (t, rest) ← lineString quote width rest
      return (d :: t, rest)
    else if isPrintable c then (lineString quote 0 rest).map (.map (c :: ·) id)
    else none

/-- The number of blank characters and line breaks after a backslash at the end of a line, if there
is a line break among the first of them. -/
def foldedLength? (t : Text) : Option Nat := do
  let _ ← afterBreak? (t.dropWhile isSpace)
  let isFolded (c : Char) := isSpace c || c == '\n' || c == '\r'
  return (t.takeWhile isFolded).length

/-- Reads a string over several lines after its opening quotes. Three quotes end it; one or two more
right before them belong to the string. -/
def blockString (quote : Char) : (skip : Nat) → Text → Option (Text × Text)
  | _, [] => none
  | skip + 1, _ :: rest => blockString quote skip rest
  | 0, c :: rest =>
    if c = quote ∧ rest.take 2 = [quote, quote] then
      let more := ((rest.drop 2).takeWhile (· == quote)).length
      if 2 < more then none else some (List.replicate more quote, rest.drop (2 + more))
    else if quote = '"' ∧ c = '\\' then
      match foldedLength? rest with
      | some length => blockString quote length rest
      | none => do
        let (d, width) ← readEscape rest
        let (t, rest) ← blockString quote width rest
        return (d :: t, rest)
    else if c = '\n' ∨ isPrintable c ∨ (c = '\r' ∧ rest.head? = some '\n') then
      (blockString quote 0 rest).map (.map (c :: ·) id)
    else none

/-- Reads a string that starts with a quote. -/
def string? (t : Text) : Option (Text × Text) :=
  match t with
  | quote :: rest =>
    if rest.take 2 = [quote, quote] then
      let body := rest.drop 2
      blockString quote 0 ((afterBreak? body).getD body)
    else lineString quote 0 rest
  | [] => none

/-! ## Numbers, dates and times -/

/-- Digits with single underscores between them. -/
def isDigits (digit : Char → Bool) (t : Text) : Bool :=
  (Text.splitAll '_' t).all fun part ↦ !part.isEmpty && part.all digit

/-- A text without its sign. -/
def unsigned : Text → Text
  | '+' :: rest => rest
  | '-' :: rest => rest
  | t => t

/-- An unsigned integer in base ten, without leading zeros. -/
def isDecimal (t : Text) : Bool :=
  isDigits Char.isDigit t && (t.head? != some '0' || t.length == 1)

def isInteger (t : Text) : Bool :=
  match t with
  | '0' :: 'x' :: rest => isDigits (fun c ↦ (Json.hexValue? c).isSome) rest
  | '0' :: 'o' :: rest => isDigits (fun c ↦ '0' ≤ c && c ≤ '7') rest
  | '0' :: 'b' :: rest => isDigits (fun c ↦ c == '0' || c == '1') rest
  | t => isDecimal (unsigned t)

/-- The parts of a text before and after the first character that satisfies `p`. -/
def cutAt (p : Char → Bool) (t : Text) : Text × Option Text :=
  match t.dropWhile (!p ·) with
  | [] => (t, none)
  | _ :: rest => (t.takeWhile (!p ·), some rest)

def isFloat (t : Text) : Bool :=
  let t := unsigned t
  if ["inf", "nan"].contains (String.ofList t) then true
  else
    let (mantissa, power) := cutAt (fun c ↦ c == 'e' || c == 'E') t
    let (whole, fraction) := cutAt (· == '.') mantissa
    isDecimal whole && (fraction.isSome || power.isSome) && fraction.all (isDigits Char.isDigit) &&
      power.all fun p ↦ isDigits Char.isDigit (unsigned p)

/-- The number that digits of a base spell, passing over everything else. -/
def digitsValue (base : Nat) (t : Text) : Nat :=
  t.foldl (fun n c ↦ ((Json.hexValue? c).map (n * base + ·)).getD n) 0

def integerValue (t : Text) : Int :=
  match t with
  | '0' :: 'x' :: rest => digitsValue 16 rest
  | '0' :: 'o' :: rest => digitsValue 8 rest
  | '0' :: 'b' :: rest => digitsValue 2 rest
  | '-' :: rest => -(digitsValue 10 rest : Int)
  | t => digitsValue 10 t

/-- The double nearest to the number that a text spells with a fraction or a power of ten. -/
def floatValue (t : Text) : Double :=
  let (mantissa, power) := cutAt (fun c ↦ c == 'e' || c == 'E') t
  let (whole, fraction) := cutAt (· == '.') mantissa
  let places : Int := (((fraction.getD []).filter Char.isDigit).length : Nat)
  let exponent := (power.map integerValue).getD 0
  .nearestDecimal (t.head? == some '-') (digitsValue 10 (whole ++ fraction.getD []))
    (exponent - places)

/-- Whether the number that a text spells can be held: an integer in a hundred and twenty-eight
bits, with a sign or without, and any other number in a finite double, unless it is spelled as a
word. -/
def isHeld (t : Text) : Bool :=
  if isInteger t then -(twoTo 127 : Int) ≤ integerValue t && integerValue t < (twoTo 128 : Int)
  else ["inf", "nan"].contains (String.ofList (unsigned t)) || (floatValue t).isFinite

/-- The number that exactly `count` digits spell. -/
def fixedNumber? (count : Nat) (t : Text) : Option Nat :=
  if t.length = count ∧ t.all Char.isDigit then
    some (t.foldl (fun n c ↦ n * 10 + (c.toNat - '0'.toNat)) 0)
  else none

/-- Whether exactly two digits spell a number within bounds. -/
def isWithin (low high : Nat) (t : Text) : Bool :=
  (fixedNumber? 2 t).any fun n ↦ low ≤ n && n ≤ high

def monthLength (year month : Nat) : Nat :=
  if month = 2 then if year % 4 = 0 ∧ (year % 100 ≠ 0 ∨ year % 400 = 0) then 29 else 28
  else if month = 4 ∨ month = 6 ∨ month = 9 ∨ month = 11 then 30
  else 31

def isDay (t : Text) : Bool :=
  match Text.splitAll '-' t with
  | [year, month, day] =>
    match fixedNumber? 4 year, fixedNumber? 2 month with
    | some y, some m => 1 ≤ m && m ≤ 12 && isWithin 1 (monthLength y m) day
    | _, _ => false
  | _ => false

/-- Whether a text spells a time of day; seconds may be left out. -/
def isTime (t : Text) : Bool :=
  match Text.splitAll ':' t with
  | [hour, minute] => isWithin 0 23 hour && isWithin 0 59 minute
  | [hour, minute, second] =>
    let (whole, fraction) := cutAt (· == '.') second
    isWithin 0 23 hour && isWithin 0 59 minute && isWithin 0 60 whole &&
      fraction.all fun f ↦ !f.isEmpty && f.all Char.isDigit
  | _ => false

/-- Whether a text spells a time of day with its distance from universal time. -/
def isZonedTime (t : Text) : Bool :=
  let isSign (c : Char) := c == '+' || c == '-'
  match cutAt (fun c ↦ isSign c || c == 'Z' || c == 'z') t with
  | (time, some []) => isTime time && !t.getLast?.any isSign
  | (time, some zone) =>
    match Text.splitAll ':' zone with
    | [hour, minute] => isTime time && isWithin 0 23 hour && isWithin 0 59 minute
    | _ => false
  | (time, none) => isTime time

/-- Whether a text spells a day, a time, or a day with a time. -/
def isDate (t : Text) : Bool :=
  isDay t || isTime t ||
    match cutAt (fun c ↦ c == 'T' || c == 't' || c == ' ') t with
    | (day, some time) => isDay day && isZonedTime time
    | _ => false

/-- The length of the bare word at the start of a text. The space between a day and a time is part
of it. -/
def wordLength (t : Text) : Nat :=
  let isWordCharacter (c : Char) := c.isAlphanum || "_+-.:".toList.contains c
  let first := t.takeWhile isWordCharacter
  match t.drop first.length with
  | ' ' :: a :: b :: ':' :: rest =>
    if isDay first ∧ a.isDigit ∧ b.isDigit then
      first.length + 4 + (rest.takeWhile isWordCharacter).length
    else first.length
  | _ => first.length

/-- Reads a scalar that is not a string. -/
def bareScalar? (t : Text) : Option (Item × Text) :=
  let length := wordLength t
  let word := t.take length
  let item? : Option Item :=
    if word = "true".toList then some (.boolean true)
    else if word = "false".toList then some (.boolean false)
    else if isInteger word || isFloat word then some (.number word)
    else if isDate word then some (.date word)
    else none
  item?.map fun item ↦ (item, t.drop length)

end CompiledViews.Toml
