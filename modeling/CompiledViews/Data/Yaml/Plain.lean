import CompiledViews.Data.Json

/-!
# What plain scalars stand for

A plain scalar is null, a boolean, a number or else a string. Numbers may have a sign and a base;
digits that begin with a zero are not a number but, say, a code. Integers that need more than
sixty-four bits are refused.
-/

namespace CompiledViews.Yaml

def isNull (t : Text) : Bool := ["null", "Null", "NULL", "~"].contains (String.ofList t)

def boolean? (t : Text) : Option Bool :=
  if ["true", "True", "TRUE"].contains (String.ofList t) then some true
  else if ["false", "False", "FALSE"].contains (String.ofList t) then some false
  else none

/-- A text without a leading plus, and a text without a leading sign. -/
def withoutPlus : Text → Text
  | '+' :: rest => rest
  | t => t

def hasSign (t : Text) : Bool := t.head?.any fun c ↦ c == '+' || c == '-'

/-- Digits, with a sign or without, that begin with a zero and go on. -/
def isCode (t : Text) : Bool :=
  let digits := if hasSign t then t.drop 1 else t
  match digits with
  | '0' :: c :: rest => (c :: rest).all Char.isDigit
  | _ => false

/-- The number that digits of a base write. -/
def digitsValue? (base : Nat) (t : Text) : Option Nat :=
  if t.isEmpty then none
  else t.foldl (fun n c ↦ do
    let digit ← Json.hexValue? c
    if digit < base then return (← n) * base + digit else none) (some 0)

/-- The base that a text begins with the sign of, and what follows. -/
def based? (t : Text) : Option (Nat × Text) :=
  match t with
  | '0' :: 'x' :: rest => some (16, rest)
  | '0' :: 'o' :: rest => some (8, rest)
  | '0' :: 'b' :: rest => some (2, rest)
  | _ => none

/-- The magnitude that a text without a sign spells. -/
def magnitude? (t : Text) : Option Nat :=
  match based? t with
  | some (base, digits) => digitsValue? base digits
  | none => if isCode t then none else digitsValue? 10 t

/-- The integer that a text spells, whatever its size. -/
def integer? (t : Text) : Option Int :=
  match t with
  | '-' :: rest => (magnitude? rest).map fun n ↦ -(n : Int)
  | t => (magnitude? (withoutPlus t)).map Int.ofNat

/-- The digits of a decimal number without a sign: all of them, and how many come after the
point. -/
def decimalDigits? (t : Text) : Option (Text × Nat × Text) :=
  let whole := t.takeWhile Char.isDigit
  let rest := t.dropWhile Char.isDigit
  match rest with
  | '.' :: rest =>
    let fraction := rest.takeWhile Char.isDigit
    if whole.isEmpty && fraction.isEmpty then none
    else some (whole ++ fraction, fraction.length, rest.dropWhile Char.isDigit)
  | _ => if whole.isEmpty then none else some (whole, 0, rest)

/-- The double nearest to the decimal number that a text spells. -/
def decimal? (t : Text) : Option Double := do
  let negative := t.head? == some '-'
  let (digits, places, rest) ← decimalDigits? (if hasSign t then t.drop 1 else t)
  let (power, rest) ← Json.exponentPart rest
  if rest.isEmpty then
    return .nearestDecimal negative (← digitsValue? 10 digits) (power.getD 0 - places)
  else none

/-- A spelling of infinity or of what is not a number. -/
def isNotFinite (t : Text) : Bool :=
  [".inf", ".Inf", ".INF", "-.inf", "-.Inf", "-.INF", ".nan", ".NaN", ".NAN",
    "+.inf", "+.Inf", "+.INF"].contains (String.ofList t)

/-- What a text spells as a floating point number. Data has no infinities, so they are null. -/
def float? (t : Text) : Option Value :=
  if isNotFinite t then some .null
  else match decimal? t with
    | some d => if d.isFinite then some (.double d) else none
    | none => none

/-- Whether an integer needs no more than a hundred and twenty-eight bits. -/
def isInteger (i : Int) : Bool := -(twoTo 127 : Int) ≤ i && i < (twoTo 128 : Int)

/-- The value of an integer, if it is not too large. -/
def integerValue? (i : Int) : Option Value :=
  if Value.isIntegerInRange i then some (.int i) else none

/-- The value of a plain scalar. -/
def plainValue? (t : Text) : Option Value :=
  if t.isEmpty || isNull t then some .null
  else match boolean? t with
    | some b => some (.bool b)
    | none =>
      match (integer? t).filter isInteger with
      | some i => integerValue? i
      | none =>
        if isCode t then some (.string t) else some ((float? t).getD (.string t))

end CompiledViews.Yaml
