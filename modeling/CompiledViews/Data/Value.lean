import CompiledViews.Data.Entries
import CompiledViews.Decimal.Double

/-!
# Data values

The values that data files hold and that controllers supply. Integers and doubles are different
kinds of number: `100` and `100.0` are told apart all the way to the output.
-/

namespace CompiledViews

inductive Value
  | null
  | bool (b : Bool)
  | int (i : Int)
  | double (d : Double)
  | string (t : Text)
  | array (elements : List Value)
  | object (entries : List (Text × Value))
  deriving Inhabited

/-- The named values a view is rendered with. -/
abbrev ViewData := Entries Value

namespace Value

def ofString (s : String) : Value := string s.toList

/-- A mapping, from entries in any order. -/
def ofEntries (entries : List (Text × Value)) : Value := object (Entries.ofList entries)

/-- The integers that fit a data file: those of sixty-four bits, signed or not. -/
def isIntegerInRange (i : Int) : Bool := -(twoTo 63 : Int) ≤ i && i < (twoTo 64 : Int)

def text? : Value → Option Text
  | string t => some t
  | _ => none

end Value

end CompiledViews
