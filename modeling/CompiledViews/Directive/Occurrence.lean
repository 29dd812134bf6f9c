import CompiledViews.Text.Basic

/-!
# Where a directive occurs

A directive is written `@name`, or `@name(expression)` with spaces or tabs allowed before the
parenthesis. It is not one when another `@` or a character of an identifier comes before it, so
`@@name` and `user@name` stay text, nor when the name goes on.

Scanning never moves positions about: it cuts a source into pieces, plain characters and whole
occurrences, whose written forms put together again are the source. Positions are read off the
pieces where they are wanted.
-/

namespace CompiledViews.Directive

/-! ## Argument lists -/

/-- What the reader of an expression is in the middle of. -/
inductive Reading
  /-- Plain text, in which parentheses count. -/
  | plain
  /-- A string that ends at this quote. -/
  | quoted (quote : Char)
  /-- The character after a backslash in such a string. -/
  | escaped (quote : Char)
  deriving DecidableEq

/-- The text up to the parenthesis that closes the outermost of `depth + 1` open ones, and the text
beyond it. Parentheses within quotes do not count, and a backslash hides a quote. -/
def closing : (depth : Nat) → Reading → Text → Option (Text × Text)
  | _, _, [] => none
  | depth, .escaped quote, c :: cs => (closing depth (.quoted quote) cs).map (.map (c :: ·) id)
  | depth, .quoted quote, c :: cs =>
    let next := if c = '\\' then .escaped quote else if c = quote then .plain else .quoted quote
    (closing depth next cs).map (.map (c :: ·) id)
  | depth, .plain, c :: cs =>
    if c = '\'' ∨ c = '"' then (closing depth (.quoted c) cs).map (.map (c :: ·) id)
    else if c = '(' then (closing (depth + 1) .plain cs).map (.map (c :: ·) id)
    else if c = ')' then
      match depth with
      | 0 => some ([], cs)
      | depth + 1 => (closing depth .plain cs).map (.map (c :: ·) id)
    else (closing depth .plain cs).map (.map (c :: ·) id)

/-- An argument list as it is written: a gap of spaces and tabs, then an expression in
parentheses. -/
structure Arguments where
  gap : Text
  expr : Text
  deriving DecidableEq

def Arguments.written (arguments : Arguments) : Text :=
  arguments.gap ++ '(' :: arguments.expr ++ [')']

/-- A character allowed between a directive's name and its argument list. -/
def isGap (c : Char) : Bool := c == ' ' || c == '\t'

/-- The argument list with which `rest` begins. There is none unless its parenthesis is closed. -/
def arguments? (rest : Text) : Option Arguments :=
  match rest.dropWhile isGap with
  | '(' :: body => (closing 0 .plain body).map fun read ↦ ⟨rest.takeWhile isGap, read.1⟩
  | _ => none

/-! ## Pieces of a source -/

inductive Piece
  /-- A character that belongs to no occurrence. -/
  | plain (c : Char)
  /-- An occurrence of the directive, with its argument list if it has one. -/
  | call (arguments : Option Arguments)
  deriving DecidableEq

/-- A directive as it is written. -/
def written (name : Text) (arguments : Option Arguments) : Text :=
  '@' :: name ++ (arguments.map Arguments.written).getD []

/-- The piece as it is written, for the directive that was looked for. -/
def Piece.written (name : Text) : Piece → Text
  | plain c => [c]
  | call arguments => Directive.written name arguments

/-- Whether the character before an `@` keeps it from starting a directive. -/
def blocksDirective (c : Char) : Bool := c == '@' || Text.isIdentifierRest c

/-- The text after `@name` at the start of a text that comes after the character `previous`, if a
directive of that name stands there. -/
def afterName? (name : Text) (previous : Option Char) (t : Text) : Option Text :=
  if previous.any blocksDirective then none
  else (Text.dropBeginning? ('@' :: name) t).filter fun rest ↦ !rest.startsInIdentifier

/-- Cuts a source into pieces. The first `skip` characters belong to an occurrence found before. -/
def piecesFrom (name : Text) : (previous : Option Char) → (skip : Nat) → Text → List Piece
  | _, _, [] => []
  | _, skip + 1, c :: cs => piecesFrom name (some c) skip cs
  | previous, 0, c :: cs =>
    match afterName? name previous (c :: cs) with
    | some rest =>
      let arguments := arguments? rest
      .call arguments ::
        piecesFrom name (some c) ((written name arguments).length - 1) cs
    | none => .plain c :: piecesFrom name (some c) 0 cs

/-- The pieces of a source, for the directive `name`. -/
def pieces (name source : Text) : List Piece := piecesFrom name none 0 source

/-! ## Positions -/

/-- An occurrence and where it stands, in bytes of UTF-8. -/
structure Occurrence where
  start : Nat
  stop : Nat
  expr : Option Text
  deriving DecidableEq

/-- The occurrences among pieces that begin at the byte `offset`. -/
def occurrencesFrom (name : Text) : (offset : Nat) → List Piece → List Occurrence
  | _, [] => []
  | offset, .plain c :: rest => occurrencesFrom name (offset + c.utf8Size) rest
  | offset, .call arguments :: rest =>
    let stop := offset + (written name arguments).utf8Length
    ⟨offset, stop, arguments.map (·.expr)⟩ :: occurrencesFrom name stop rest

/-- Every occurrence of the directive in a source, from left to right. -/
def occurrences (name source : Text) : List Occurrence :=
  occurrencesFrom name 0 (pieces name source)

/-! ## Escapes -/

/-- Takes one `@` from each `@@name` whose name does not go on. The first `copy` characters are
those of a name already dealt with. -/
def unescapeFrom (name : Text) : (copy : Nat) → Text → Text
  | _, [] => []
  | copy + 1, c :: cs => c :: unescapeFrom name copy cs
  | 0, c :: cs =>
    match Text.dropBeginning? ('@' :: '@' :: name) (c :: cs) with
    | some rest =>
      (if rest.startsInIdentifier then [c] else []) ++ unescapeFrom name (name.length + 1) cs
    | none => c :: unescapeFrom name 0 cs

/-- A text in which `@@name` has become `@name`. -/
def unescape (name text : Text) : Text := unescapeFrom name 0 text

end CompiledViews.Directive
