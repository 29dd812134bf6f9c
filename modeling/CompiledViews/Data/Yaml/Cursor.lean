import CompiledViews.Text.Basic

/-!
# A place in a YAML document

YAML gives meaning to columns and line breaks, so reading goes on with what remains of the text
together with the line and the column it starts at. The two-character break counts as one.
-/

namespace CompiledViews.Yaml

/-- What remains to be read, and where it starts. -/
structure Cursor where
  rest : Text
  /-- The number of bytes before it. -/
  index : Nat := 0
  line : Nat := 0
  column : Nat := 0

/-- A character that ends a line. -/
def isBreak (c : Char) : Bool :=
  c == '\n' || c == '\r' || c == '\x85' || c == '\u2028' || c == '\u2029'

def isBlank (c : Char) : Bool := c == ' ' || c == '\t'

/-- Whether nothing, or nothing but a blank or a break, comes next. -/
def endsWord (t : Text) : Bool := t.head?.all fun c ↦ isBlank c || isBreak c

def endsLine (t : Text) : Bool := t.head?.all isBreak

/-- Characters of names of anchors, handles and the like. -/
def isNameCharacter (c : Char) : Bool := c.isAlphanum || c == '_' || c == '-'

/-- Whether a document marker of this character, thrice, stands at the start of the text. -/
def hasMarker (mark : Char) (t : Text) : Bool :=
  t.take 3 == [mark, mark, mark] && endsWord (t.drop 3)

namespace Cursor

def atEnd (cursor : Cursor) : Bool := cursor.rest.isEmpty

/-- Goes past `n` characters of the current line. -/
def skip (cursor : Cursor) (n : Nat) : Cursor :=
  { cursor with
    rest := cursor.rest.drop n
    index := cursor.index + Text.utf8Length (cursor.rest.take n)
    column := cursor.column + n }

/-- Takes the characters of the current line that satisfy `p`, as far as they follow one another. -/
def takeWhile (p : Char → Bool) (cursor : Cursor) : Text × Cursor :=
  let taken := cursor.rest.takeWhile p
  (taken, cursor.skip taken.length)

/-- Goes past the characters of the current line that satisfy `p`. -/
def skipWhile (p : Char → Bool) (cursor : Cursor) : Cursor := (cursor.takeWhile p).2

/-- The start of the next line, `n` characters further on. -/
def nextLine (cursor : Cursor) (n : Nat) : Cursor :=
  { rest := cursor.rest.drop n
    index := cursor.index + Text.utf8Length (cursor.rest.take n)
    line := cursor.line + 1
    column := 0 }

/-- Takes a line break as the text it stands for: all breaks but the two separators are the same. -/
def takeBreak (cursor : Cursor) : Text × Cursor :=
  match cursor.rest with
  | '\r' :: '\n' :: _ => (['\n'], cursor.nextLine 2)
  | c :: _ =>
    if c = '\u2028' ∨ c = '\u2029' then ([c], cursor.nextLine 1)
    else if isBreak c then (['\n'], cursor.nextLine 1)
    else ([], cursor)
  | [] => ([], cursor)

/-- Whether a marker between documents starts here. -/
def atMarker (cursor : Cursor) : Bool :=
  cursor.column == 0 && (hasMarker '-' cursor.rest || hasMarker '.' cursor.rest)

end Cursor

end CompiledViews.Yaml
