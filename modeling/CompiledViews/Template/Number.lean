import CompiledViews.Decimal.Double

/-!
# The numbers of a template

Whole numbers are held in machine words, of sixty-four bits if that is enough and of a hundred and
twenty-eight otherwise: those that are written down or counted without a sign, those that are
computed with one. Two numbers meet as integers or, where a double takes part, as doubles. To be
equal they have to meet without loss, so an integer that no double has the value of is equal to no
double; for arithmetic the nearest double will do.

Two numbers that are both too large for a signed word are taken for the signed ones with the same
bits; one alone does not meet an integer.
-/

namespace CompiledViews.Template

/-- A number of a template. -/
inductive Number
  /-- One that is written or counted, less than `2 ^ 128`. -/
  | natural (n : Nat)
  /-- One that is computed, from `-2 ^ 127` to less than `2 ^ 127`. -/
  | integer (i : Int)
  | double (d : Double)
  deriving DecidableEq

namespace Number

/-! ## Words -/

/-- The integers that an operation can take and give. -/
def fits (i : Int) : Bool := -(twoTo 127 : Int) ≤ i && i < (twoTo 127 : Int)

/-- The greatest number of the word that holds a number. -/
def wordLimit : Number → Int
  | natural n => if n < twoTo 64 then twoTo 64 - 1 else twoTo 128 - 1
  | integer i => if -(twoTo 63 : Int) ≤ i && i < twoTo 63 then twoTo 63 - 1 else twoTo 127 - 1
  | double _ => 0

/-- The value of a whole number, and of a double without its fraction. -/
def whole : Number → Int
  | natural n => n
  | integer i => i
  | double d => d.truncate

/-- A number as a signed integer, if it is a whole number in the range. -/
def signed? : Number → Option Int
  | natural n => if fits n then some n else none
  | integer i => some i
  | double _ => none

/-- The signed integer with the same hundred and twenty-eight bits. -/
def wrapped (n : Nat) : Int := if n < twoTo 127 then n else (n : Int) - twoTo 128

/-- The integer that a number converts to, where a position or a count is asked for. A double is
brought into a word of sixty-four bits and has to be the double that this gives again. -/
def index? : Number → Option Int
  | natural n => some n
  | integer i => some i
  | double d =>
    let i := if d.isFinite then max (-(twoTo 63 : Int)) (min d.truncate (twoTo 63 - 1)) else 0
    if (Double.ofInt i).equals d then some i else none

/-! ## Doubles -/

/-- The double nearest to a number. -/
def toDouble : Number → Double
  | double d => d
  | number => .ofInt number.whole

/-- The double that has the value of a number, if there is one: read back into the word that holds
the number, which cuts it off at the greatest, it gives the number again. -/
def exactly? : Number → Option Double
  | double d => some d
  | number =>
    let d := Double.ofInt number.whole
    if min d.truncate number.wordLimit = number.whole then some d else none

/-! ## Two numbers -/

/-- Two numbers in one form. -/
inductive Pair
  | integers (i j : Int)
  | doubles (x y : Double)

/-- Two numbers in one form, those that are to be doubles converted so. -/
def meet? (convert : Number → Option Double) : Number → Number → Option Pair
  | double x, b => (convert b).map (.doubles x)
  | a, double y => (convert a).map (.doubles · y)
  | natural m, natural n =>
    if twoTo 64 ≤ m && twoTo 64 ≤ n then some (.integers (wrapped m) (wrapped n))
    else if fits m && fits n then some (.integers m n) else none
  | a, b => do return .integers (← a.signed?) (← b.signed?)

/-- The order of two numbers by their exact values. -/
def compareValues : Number → Number → Ordering
  | double x, double y => Ord.compare x.place y.place
  | double x, b => x.compareWithInt b.whole
  | a, double y => (y.compareWithInt a.whole).swap
  | a, b => Ord.compare a.whole b.whole

def compare (a b : Number) : Ordering :=
  match meet? exactly? a b with
  | some (.integers i j) => Ord.compare i j
  | some (.doubles x y) => Ord.compare x.place y.place
  | none => compareValues a b

def equals (a b : Number) : Bool :=
  match meet? exactly? a b with
  | some (.integers i j) => i == j
  | some (.doubles x y) => x.equals y
  | none => false

/-- Two numbers in the form in which they are computed with. -/
def forArithmetic? (a b : Number) : Option Pair := meet? (some ·.toDouble) a b

end Number

end CompiledViews.Template
