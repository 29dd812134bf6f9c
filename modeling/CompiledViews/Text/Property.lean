import CompiledViews.Text.Basic

/-!
# Character properties as change points

A property of code points is written down as the increasing list of the code points at which it
changes, starting from "absent": `[9, 14, 32, 33]` holds on `9 … 13` and on `32` only. The large
tables of the Unicode standard stay readable in this form, and looking one up stops at the first
change point beyond the character, so text in ASCII costs next to nothing.
-/

namespace CompiledViews.Text

/-- Whether `n` has the property that changes at the given points, being `current` before them. -/
def holdsFrom (current : Bool) (n : Nat) : List Nat → Bool
  | [] => current
  | change :: changes => if n < change then current else holdsFrom (!current) n changes

/-- Whether a character has the property that is absent at first and changes at these points. -/
def hasProperty (changes : List Nat) (c : Char) : Bool := holdsFrom false c.toNat changes

/-! ## Blank characters -/

/-- Change points of the property White_Space. -/
def blankChanges : List Nat := [
  0x9, 0xe, 0x20, 0x21, 0x85, 0x86, 0xa0, 0xa1, 0x1680, 0x1681, 0x2000, 0x200b, 0x2028, 0x202a,
  0x202f, 0x2030, 0x205f, 0x2060, 0x3000, 0x3001]

/-- A blank character: one of the standard's property White_Space, ASCII or not. -/
def isBlank (c : Char) : Bool := hasProperty blankChanges c

/-- A text without the blank characters at its start. -/
def trimStart (t : Text) : Text := t.dropWhile isBlank

def trimEnd (t : Text) : Text := (t.reverse.dropWhile isBlank).reverse

/-- A text without the blank characters at either end. -/
def trim (t : Text) : Text := trimEnd (trimStart t)

end CompiledViews.Text
