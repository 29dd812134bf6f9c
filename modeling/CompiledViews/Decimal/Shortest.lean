import CompiledViews.Decimal.Double
import CompiledViews.Text.Basic

/-!
# The shortest decimal that reads back

A double stands for every real that rounds to it. Of the decimals in that interval the one with the
fewest digits is written, and of those the one nearest to the double itself. For each count of
digits it is enough to look at the double's two neighbours on that decimal grid: if any point of the
grid lies in the interval, one of them does.
-/

namespace CompiledViews.Double

/-- A positive decimal `digits · 10 ^ exponent`. -/
structure Decimal where
  digits : Nat
  exponent : Int
  deriving DecidableEq

/-- The reals that round to a double, over one denominator: `low … high` around `value`, the ends
belonging to it when `closed`. -/
structure Interval where
  value : Nat
  low : Nat
  high : Nat
  den : Nat
  closed : Bool

/-- The interval of a finite double other than zero. Below a power of two doubles lie closer. -/
def interval (d : Double) : Interval :=
  let m := d.significand
  let gap := if d.fractionField = 0 ∧ 1 < d.exponentField then 1 else 2
  let scale := if 0 ≤ d.exponent - 2 then twoTo (d.exponent - 2).toNat else 1
  let den := if 0 ≤ d.exponent - 2 then 1 else twoTo (2 - d.exponent).toNat
  { value := 4 * m * scale, low := (4 * m - gap) * scale, high := (4 * m + 2) * scale, den
    closed := m % 2 == 0 }

def Interval.contains (i : Interval) (num den : Nat) : Bool :=
  if i.closed then i.low * den ≤ num * i.den && num * i.den ≤ i.high * den
  else i.low * den < num * i.den && num * i.den < i.high * den

/-- `10 ^ e` as a numerator and a denominator. -/
def powerOfTen (e : Int) : Nat × Nat := (tenTo e.toNat, tenTo (-e).toNat)

/-- The greatest `e` with `10 ^ e ≤ num / den`, for positive `num` and `den`. -/
def floorLog10 (num den : Nat) : Int :=
  if den ≤ num then ((Nat.toDigits 10 (num / den)).length : Int) - 1
  else
    let places := (Nat.toDigits 10 (den / num)).length
    if den ≤ num * tenTo (places - 1) then 1 - (places : Int) else -(places : Int)

/-- The point of the grid `10 ^ e` that lies in the interval and nearest to its value. -/
def Interval.onGrid? (i : Interval) (e : Int) : Option Decimal :=
  let (scale, den) := powerOfTen e
  let step := i.den * scale
  let below := i.value * den / step
  let inside (k : Nat) : Bool := i.contains (k * scale) den
  let rest := i.value * den % step
  let belowNearer := 2 * rest < step ∨ (2 * rest = step ∧ below % 2 = 0)
  let (nearer, farther) := if belowNearer then (below, below + 1) else (below + 1, below)
  if inside nearer then some ⟨nearer, e⟩
  else if inside farther then some ⟨farther, e⟩
  else none

/-- The first hit on the grids of `count`, `count + 1`, … digits, at most `more` of them. -/
def Interval.search (i : Interval) (top : Int) : (more count : Nat) → Decimal
  | 0, _ => ⟨i.value / i.den, 0⟩
  | more + 1, count => (i.onGrid? (top + 1 - count)).getD (i.search top more (count + 1))

/-- Moves the zeros at the end of the digits to the exponent; `fuel` bounds their number. -/
def Decimal.trimmed : (fuel : Nat) → Decimal → Decimal
  | 0, d => d
  | fuel + 1, d =>
    if d.digits ≠ 0 ∧ d.digits % 10 = 0 then trimmed fuel ⟨d.digits / 10, d.exponent + 1⟩ else d

/-- The shortest decimal that reads back as the magnitude of a finite double other than zero.
Seventeen digits always suffice. -/
def shortest (d : Double) : Decimal :=
  let i := d.interval
  (i.search (floorLog10 i.value i.den) 17 1).trimmed 20

/-! ## Notations -/

def zeros (n : Nat) : Text := List.replicate n '0'

/-- A decimal written out with a point and at least one digit on either side of it. -/
def Decimal.positional (d : Decimal) : Text :=
  let digits := Nat.toDigits 10 d.digits
  if 0 ≤ d.exponent then digits ++ zeros d.exponent.toNat ++ ['.', '0']
  else
    let places := (-d.exponent).toNat
    if places < digits.length then
      digits.take (digits.length - places) ++ '.' :: digits.drop (digits.length - places)
    else '0' :: '.' :: zeros (places - digits.length) ++ digits

/-- A decimal with one digit before the point and a power of ten, before which `plus` stands unless
it is negative; no point after a single digit. -/
def Decimal.scientific (plus : Text) (d : Decimal) : Text :=
  let digits := Nat.toDigits 10 d.digits
  let power := d.exponent + digits.length - 1
  let sign := if power < 0 then ['-'] else plus
  digits.take 1 ++ (if digits.length = 1 then [] else '.' :: digits.drop 1)
    ++ 'e' :: sign ++ Nat.toDigits 10 power.natAbs

/-- The number of digits a decimal has before the point; negative for zeros after it. -/
def Decimal.point (d : Decimal) : Int := d.exponent + (Nat.toDigits 10 d.digits).length

/-- A double with its sign, its magnitude written by `write`. -/
def signed (write : Decimal → Text) (d : Double) : Text :=
  (if d.isNegative then ['-'] else []) ++
    if d.isZero then ['0', '.', '0'] else write d.shortest

/-- A double with its sign, its magnitude written by `write`, or the words for what has no
digits. -/
def withWords (write : Decimal → Text) (d : Double) : Text :=
  if d.isNaN then "NaN".toList
  else if d.isInfinite then (if d.isNegative then "-inf".toList else "inf".toList)
  else signed write d

/-- A double as templates print it: never with a power of ten. -/
def display : Double → Text := withWords Decimal.positional

/-- A double as templates show it inside a list or a mapping: positional from `0.0001` up to sixteen
digits before the point, with a power of ten beyond. -/
def displayInside : Double → Text := withWords fun decimal ↦
  if -4 < decimal.point ∧ decimal.point ≤ 16 then decimal.positional else decimal.scientific []

/-- A finite double as data files write it: positional from `0.00001` up to sixteen digits before
the point, with a power of ten beyond. -/
def toJson : Double → Text := signed fun decimal ↦
  if -5 < decimal.point ∧ decimal.point ≤ 16 then decimal.positional
  else decimal.scientific ['+']

end CompiledViews.Double
