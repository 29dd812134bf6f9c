import CompiledViews.Template.Expression
import CompiledViews.Template.Fault

/-!
# Operators

Integers stay integers as long as they fit a hundred and twenty-eight bits, and otherwise the
operation is refused; the quotient of two integers is a double. Division with a remainder is
Euclidean, so the remainder of integers is never negative.
-/

namespace CompiledViews

/-! ## Division of doubles -/

namespace Double

/-- The first of two doubles that is not a number, if one of them is. -/
def notANumberOf (a b : Double) : Double :=
  if a.isNaN then a else if b.isNaN then b else notANumber

/-- An operation of the machine on doubles. What is not a number goes through it as it is. -/
def onFloats (f : Float → Float → Float) (a b : Double) : Double :=
  let result := ofFloat (f a.toFloat b.toFloat)
  if result.isNaN then notANumberOf a b else result

/-- The remainder of a division whose quotient is rounded toward zero; it is exact, and has the sign
of the dividend. -/
def remainder (a b : Double) : Double :=
  if a.isNaN || b.isNaN || a.isInfinite || b.isZero then notANumberOf a b
  else if b.isInfinite then a
  else
    let e := min a.exponent b.exponent
    let scaled (d : Double) := d.significand * twoTo (d.exponent - e).toNat
    let rest := scaled a % scaled b
    if 0 ≤ e then nearest a.isNegative (rest * twoTo e.toNat) 1
    else nearest a.isNegative rest (twoTo (-e).toNat)

/-- The quotient of the Euclidean division. -/
def euclideanQuotient (a b : Double) : Double :=
  onFloats (fun x y ↦
    let exact := x / y
    let quotient := if exact < 0 then exact.ceil else exact.floor
    if (a.remainder b).toFloat < 0 then if 0 < y then quotient - 1 else quotient + 1
    else quotient) a b

end Double

namespace Template

namespace Operator

/-- A number as the result of an operation. -/
def double (d : Double) : Item := .number (.double d)

/-- An integer as the result of an operation. -/
def integer (i : Int) : Except FaultKind Item :=
  if Number.fits i then .ok (.number (.integer i)) else .error .invalidOperation

/-- An operation on numbers: the one on integers where both are, and else the one on doubles. -/
def arithmetic (ints : Int → Int → Except FaultKind Item) (doubles : Double → Double → Double)
    (a b : Item) : Except FaultKind Item :=
  match a.number?, b.number? with
  | some m, some n =>
    match m.forArithmetic? n with
    | some (.integers i j) => ints i j
    | some (.doubles x y) => .ok (double (doubles x y))
    | none => .error .invalidOperation
  | _, _ => .error .invalidOperation

/-- The elements of a list or a series, and those met when it is gone through again. -/
def sequence? : Item → Option (List Item × List Item)
  | .list elements => some (elements, elements)
  | .series elements later => some (elements, later)
  | _ => none

/-- The sum of numbers; texts are put one after the other, and so are lists, to a series. -/
def sum (a b : Item) : Except FaultKind Item :=
  match sequence? a, sequence? b with
  | some (xs, xsLater), some (ys, ysLater) => .ok (.series (xs ++ ys) (xsLater ++ ysLater))
  | _, _ =>
    match a, b with
    | .string s _, .string t _ => .ok (.text (s ++ t))
    | a, b => arithmetic (fun i j ↦ integer (i + j)) (Double.onFloats (· + ·)) a b

/-- How often something is to be repeated. -/
def repetitions (item : Item) : Except FaultKind Nat :=
  match item.index? with
  | some (.ofNat n) => if n < twoTo 64 then .ok n else .error .invalidOperation
  | _ => .error .invalidOperation

/-- Something put one after the other a number of times. -/
def repeated {α : Type} (n : Nat) (part : List α) : List α :=
  if part.isEmpty then [] else (List.replicate n part).flatten

/-- The product of numbers; texts are repeated, and so are lists, to a series. The length of a list
is taken before it is gone through. -/
def product (a b : Item) : Except FaultKind Item :=
  match a, b with
  | .string t _, b => do return .text (repeated (← repetitions b) t)
  | a, .string t _ => do return .text (repeated (← repetitions a) t)
  | a, b =>
    match sequence? a, sequence? b with
    | some (_, xs), _ => do return .steady (repeated (← repetitions b) xs)
    | none, some (_, ys) => do return .steady (repeated (← repetitions a) ys)
    | none, none => arithmetic (fun i j ↦ integer (i * j)) (Double.onFloats (· * ·)) a b

/-- The quotient, always a double. -/
def quotient (a b : Item) : Except FaultKind Item :=
  match a.number?, b.number? with
  | some m, some n => .ok (double (Double.onFloats (· / ·) m.toDouble n.toDouble))
  | _, _ => .error .invalidOperation

/-- The quotient or the remainder of a division by a number other than zero, whose quotient has to
be in the range. -/
def division (f : Int → Int → Int) (i j : Int) : Except FaultKind Item :=
  if j = 0 || !Number.fits (i / j) then .error .invalidOperation else integer (f i j)

/-- The power of an integer to an integer of at most thirty-two bits. A base that is not `0`, `1`
or `-1` leaves the range before its exponent is `128`. -/
def integerPower (i j : Int) : Except FaultKind Item :=
  if j < 0 || twoTo 32 ≤ j then .error .invalidOperation
  else if i.natAbs ≤ 1 then integer (Int.pow i (j.toNat % 2 + 2 * min 1 (j.toNat / 2)))
  else if 128 ≤ j then .error .invalidOperation
  else integer (Int.pow i j.toNat)

/-- The opposite number. The least integer is written as the opposite of a number that has no
opposite in the range; that number is left as it is. -/
def negate : Item → Except FaultKind Item
  | .number (.double d) => .ok (double d.opposite)
  | .number n =>
    if n = .natural (twoTo 127) then .ok (.number n)
    else match n.signed? with
      | some i => integer (-i)
      | none => .error .invalidOperation
  | _ => .error .invalidOperation

/-- Whether a text occurs in another. -/
def occursIn (part : Text) : Text → Bool
  | [] => part == []
  | c :: rest => part.isPrefixOf (c :: rest) || occursIn part rest

/-- Whether an item is a part of a text, an element of a list or a key of a mapping. -/
def isMember (item : Item) : Item → Except FaultKind Bool
  | .undefined => .ok false
  | .string t _ => .ok (occursIn item.printed t)
  | .list elements => .ok (elements.any (·.isEqual item))
  | .series elements _ => .ok (elements.any (·.isEqual item))
  | .map entries _ => .ok (Item.lookUp item entries).isSome
  | .function _ => .ok false
  | _ => .error .invalidOperation

def apply : Operator → Item → Item → Except FaultKind Item
  | .add, a, b => sum a b
  | .subtract, a, b => arithmetic (fun i j ↦ integer (i - j)) (Double.onFloats (· - ·)) a b
  | .multiply, a, b => product a b
  | .divide, a, b => quotient a b
  | .floorDivide, a, b => arithmetic (division (· / ·)) Double.euclideanQuotient a b
  | .modulo, a, b => arithmetic (division (· % ·)) Double.remainder a b
  | .power, a, b => arithmetic integerPower (Double.onFloats Float.pow) a b
  | .concatenate, a, b => .ok (.text (a.printed ++ b.printed))

end Operator

/-- Whether a comparison holds. -/
def Comparison.apply : Comparison → Item → Item → Except FaultKind Bool
  | .equal, a, b => .ok (a.isEqual b)
  | .notEqual, a, b => .ok !(a.isEqual b)
  | .less, a, b => .ok (a.compare b == .lt)
  | .atMost, a, b => .ok (a.compare b != .gt)
  | .greater, a, b => .ok (a.compare b == .gt)
  | .atLeast, a, b => .ok (a.compare b != .lt)
  | .member, a, b => Operator.isMember a b
  | .notMember, a, b => (Operator.isMember a b).map Bool.not

end Template

end CompiledViews
