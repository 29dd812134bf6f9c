/-!
# Doubles

A double is its sixty-four bits, so that equality is decidable and two zeros differ. The value is
read off the bits as an integer times a power of two; text is read and written through exact
arithmetic on that form, and only sums, products and the like go through the machine's own numbers.
-/

namespace CompiledViews

/-! ## Powers of the two bases -/

def twoTo (n : Nat) : Nat := Nat.pow 2 n

def tenTo (n : Nat) : Nat := Nat.pow 10 n

/-! ## The sixty-four bits -/

/-- A binary floating point number of sixty-four bits. -/
structure Double where
  bits : UInt64
  deriving DecidableEq, Inhabited

namespace Double

/-- What an operation without a result gives: it is not a number, and its sign bit is set. -/
def notANumber : Double := ⟨UInt64.ofNat (twoTo 63 + 2047 * twoTo 52 + twoTo 51)⟩

/-- The double with the machine's representation `x`. -/
def ofFloat (x : Float) : Double := if x.isNaN then notANumber else ⟨x.toBits⟩

def toFloat (d : Double) : Float := Float.ofBits d.bits

def isNegative (d : Double) : Bool := d.bits.toNat / twoTo 63 == 1

/-- The eleven bits of the exponent. -/
def exponentField (d : Double) : Nat := d.bits.toNat / twoTo 52 % twoTo 11

/-- The fifty-two bits of the fraction. -/
def fractionField (d : Double) : Nat := d.bits.toNat % twoTo 52

def isNaN (d : Double) : Bool := d.exponentField == 2047 && d.fractionField != 0

def isInfinite (d : Double) : Bool := d.exponentField == 2047 && d.fractionField == 0

def isFinite (d : Double) : Bool := d.exponentField != 2047

def isZero (d : Double) : Bool := d.bits.toNat % twoTo 63 == 0

/-- The integer `m` of a finite double of magnitude `m · 2 ^ q`. -/
def significand (d : Double) : Nat :=
  if d.exponentField = 0 then d.fractionField else twoTo 52 + d.fractionField

/-- The exponent `q` of a finite double of magnitude `m · 2 ^ q`. -/
def exponent (d : Double) : Int := (max 1 d.exponentField : Nat) - 1075

def infinity (negative : Bool) : Double :=
  ⟨UInt64.ofNat ((if negative then twoTo 63 else 0) + 2047 * twoTo 52)⟩

/-! ## Rounding to the nearest double -/

/-- `num / den` rounded to the nearest integer, a half going to the even neighbour. -/
def roundHalfEven (num den : Nat) : Nat :=
  let floor := num / den
  let rest := 2 * (num % den)
  if rest < den then floor
  else if den < rest then floor + 1
  else floor + floor % 2

/-- The greatest `e` with `2 ^ e ≤ num / den`, for positive `num` and `den`. -/
def floorLog2 (num den : Nat) : Int :=
  let e : Int := (num.log2 : Int) - den.log2
  let below := if 0 ≤ e then num < den * twoTo e.toNat else num * twoTo (-e).toNat < den
  if below then e - 1 else e

/-- The double nearest to `num / den`, of the given sign; an infinity beyond the greatest double. -/
def nearest (negative : Bool) (num den : Nat) : Double :=
  let sign := if negative then twoTo 63 else 0
  if num = 0 then ⟨UInt64.ofNat sign⟩
  else
    let q := max (floorLog2 num den - 52) (-1074)
    let m := if 0 ≤ q then roundHalfEven num (den * twoTo q.toNat)
      else roundHalfEven (num * twoTo (-q).toNat) den
    let bits := (q + 1074).toNat * twoTo 52 + m
    if bits < 2047 * twoTo 52 then ⟨UInt64.ofNat (sign + bits)⟩ else infinity negative

def ofInt (i : Int) : Double := nearest (i < 0) i.natAbs 1

/-- The double nearest to `digits · 10 ^ exponent`. Exponents far outside the range of doubles give
an infinity or a zero without being computed with. -/
def nearestDecimal (negative : Bool) (digits : Nat) (exponent : Int) : Double :=
  let places := (Nat.toDigits 10 digits).length
  if digits = 0 then nearest negative 0 1
  else if (400 : Int) < exponent + places then infinity negative
  else if exponent + places < (-400 : Int) then nearest negative 0 1
  else if 0 ≤ exponent then nearest negative (digits * tenTo exponent.toNat) 1
  else nearest negative digits (tenTo (-exponent).toNat)

/-- The integer a finite double rounds to when its fraction is dropped. -/
def truncate (d : Double) : Int :=
  let magnitude : Int := if 0 ≤ d.exponent then (d.significand * twoTo d.exponent.toNat : Nat)
    else (d.significand / twoTo (-d.exponent).toNat : Nat)
  if d.isNegative then -magnitude else magnitude

/-! ## Comparison -/

/-- Whether two doubles have the same value; the zeros of both signs have. -/
def equals (x y : Double) : Bool := !x.isNaN && !y.isNaN && (x == y || x.isZero && y.isZero)

/-- The place of a double among all doubles. They are in the order of their values; a negative zero
comes before the positive one, and what is not a number stands at either end. -/
def place (d : Double) : Int :=
  let magnitude : Int := (d.bits.toNat % twoTo 63 : Nat)
  if d.isNegative then -magnitude - 1 else magnitude

/-- The order of a double and an integer that no double has the value of. -/
def compareWithInt (d : Double) (i : Int) : Ordering :=
  if d.isFinite then Ord.compare d.truncate i else if d.isNegative then .lt else .gt

def opposite (d : Double) : Double :=
  ⟨UInt64.ofNat (if d.isNegative then d.bits.toNat - twoTo 63 else d.bits.toNat + twoTo 63)⟩

end Double

end CompiledViews
