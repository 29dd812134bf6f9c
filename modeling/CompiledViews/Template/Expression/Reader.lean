import CompiledViews.Template.Expression.Constant
import CompiledViews.Template.Token

/-!
# Reading expressions

Operators bind in levels, from the loosest to the tightest: `if … else`, `or`, `and`, `not`,
comparisons, sums, `~`, products, `**`; and tighter than all operators, filters and tests, and then
attributes, subscripts and calls. On each level operators are read from left to right.

Every level is a function of two readers: that of what an operand begins with, and that of a whole
expression, which stands wherever there are brackets around one. So the recursion is on the depth of
brackets, and that is limited: a whole expression takes one level, and so does what an operand
begins with, as long as it is being read.
-/

namespace CompiledViews.Template

/-- Reads tokens. -/
abbrev Reader (α : Type) := StateT (List Token) (Except FaultKind) α

/-- A word of the language, as a token. -/
def word (s : String) : Token := .name s.toList

namespace Reader

/-- The next token; none at the end. A faulty one cannot be looked at. -/
def peek? : Reader (Option Token) := do
  match (← get).head? with
  | some (.faulty kind) => throw kind
  | token? => return token?

/-- Reads the next token, if there is one. -/
def next? : Reader (Option Token) := do
  let token? ← peek?
  modify List.tail
  return token?

def next : Reader Token := do
  match ← next? with
  | some token => return token
  | none => throw .syntaxError

/-- Reads this token if it is the next one. -/
def accept (token : Token) : Reader Bool := do
  if (← peek?) = some token then
    modify List.tail
    return true
  else return false

/-- Reads this token, which has to be the next one. -/
def expect (token : Token) : Reader Unit := do
  if (← next) ≠ token then throw .syntaxError

def name : Reader Text := do
  match ← next with
  | .name t => return t
  | _ => throw .syntaxError

/-- How many times a token comes in a row; those are read. -/
def count (token : Token) : Reader Nat := do
  let n := ((← get).takeWhile (· == token)).length
  modify (·.drop n)
  return n

/-- Reads as long as what has been read can be extended. -/
def growFrom {α : Type} (extend : α → Reader (Option α)) : (fuel : Nat) → α → Reader α
  | 0, a => return a
  | fuel + 1, a => do
    match ← extend a with
    | none => return a
    | some a => growFrom extend fuel a

/-- Reads a beginning and all that extends it; every extension takes a token. -/
def grow {α : Type} (start : Reader α) (extend : α → Reader (Option α)) : Reader α := do
  let a ← start
  growFrom extend (← get).length a

/-- Reads items with commas between them up to `close`; also a comma after the last one is fine. -/
def itemsFrom {α : Type} (close : Symbol) (item : Reader α) :
    (fuel : Nat) → (first : Bool) → Reader (List α)
  | 0, _ => throw .syntaxError
  | fuel + 1, first => do
    if ← accept (.symbol close) then return []
    if !first then
      expect (.symbol .comma)
      if ← accept (.symbol close) then return []
    let a ← item
    return a :: (← itemsFrom close item fuel false)

/-- Reads items with commas between them up to `close`, after the opening bracket. -/
def items {α : Type} (close : Symbol) (item : Reader α) : Reader (List α) := do
  itemsFrom close item ((← get).length + 1) true

end Reader

namespace Expression

open Reader

/-- The constant that a word stands for. -/
def ofWord? (t : Text) : Option Item :=
  match String.ofList t with
  | "true" => some (.bool true)
  | "True" => some (.bool true)
  | "false" => some (.bool false)
  | "False" => some (.bool false)
  | "none" => some .none
  | "None" => some .none
  | _ => none

/-! ## Operands -/

section

variable (inner : Reader Expression)

/-- Reads what follows an opening parenthesis: an expression, or a list. -/
def group : Reader Expression := do
  if ← accept (.symbol .closeParen) then return .list []
  let first ← inner
  if (← peek?) = some (.symbol .comma) then
    return .list (first :: (← itemsFrom .closeParen inner ((← get).length + 1) false))
  expect (.symbol .closeParen)
  return first

def entry : Reader (Expression × Expression) := do
  let key ← inner
  expect (.symbol .colon)
  return (key, ← inner)

/-- Reads a string. It goes on with all strings that come next. -/
def adjoinedFrom : (fuel : Nat) → Text → Reader Text
  | 0, t => return t
  | fuel + 1, t => do
    match ← peek? with
    | some (.string u) =>
      modify List.tail
      adjoinedFrom fuel (t ++ u)
    | _ => return t

/-- Reads a name, a literal, or something in brackets. -/
def primary : Reader Expression := do
  match ← next with
  | .name t => return ((ofWord? t).map literal).getD (name t)
  | .string t => return literal (.text (← adjoinedFrom (← get).length t))
  | .int n => return literal (.natural n)
  | .double d => return literal (.number (.double d))
  | .symbol .openParen => group inner
  | .symbol .openBracket => return list (← items .closeBracket inner)
  | .symbol .openBrace => return map (← items .closeBrace (entry inner))
  | _ => throw .syntaxError

/-- Reads an argument; one by keyword comes with its keyword. -/
def argument : Reader (Option Text × Expression) := do
  let e ← inner
  match e with
  | name t => if ← accept (.symbol .assign) then return (some t, ← inner) else return (none, e)
  | _ => return (none, e)

def argumentLimit : Nat := 2000

/-- Reads arguments after the opening parenthesis. Those by keyword come last, as one mapping. -/
def arguments : Reader (List Expression) := do
  let all ← items .closeParen (argument inner)
  if argumentLimit < all.length then throw .syntaxError
  let positional := (all.takeWhile (·.1.isNone)).map (·.2)
  match all.dropWhile (·.1.isNone) with
  | [] => return positional
  | keywords =>
    let entries ← keywords.mapM fun (key?, e) ↦
      match key? with
      | some key => return (literal (.text key), e)
      | none => throw .syntaxError
    return positional ++ [map entries]

/-- Reads what follows a point: the name of an attribute, or the index of an element. -/
def afterPoint (e : Expression) : Reader Expression := do
  match ← next with
  | .name t => return field e t
  | .int n => if n < twoTo 64 then return subscript e (literal (.natural n)) else throw .syntaxError
  | _ => throw .syntaxError

/-- Reads an attribute, a subscript or the arguments of a call. -/
def postfix? (e : Expression) : Reader (Option Expression) := do
  if ← accept (.symbol .dot) then return some (← afterPoint e)
  if ← accept (.symbol .openBracket) then
    let key ← inner
    expect (.symbol .closeBracket)
    return some (subscript e key)
  if ← accept (.symbol .openParen) then return some (call e (← arguments inner))
  return none

/-! ## Filters and tests -/

def argumentsIfAny : Reader (List Expression) := do
  if ← accept (.symbol .openParen) then arguments inner else return []

def filterCall : Reader (Text × List Expression) := do
  let filterName ← Reader.name
  return (filterName, ← argumentsIfAny inner)

end

/-- The readers that the levels of an expression are made of. -/
structure Parts where
  /-- Reads what an operand begins with. -/
  primary : Reader Expression
  /-- Reads a whole expression. -/
  inner : Reader Expression

variable (parts : Parts)

/-- Reads an operand with its signs, attributes, subscripts and calls. -/
def operand : Reader Expression := do
  let signs ← count (.symbol .minus)
  let e ← parts.primary
  grow (return signs.repeat negate e) (postfix? parts.inner)

/-- The words that go on with an expression after a test. -/
def wordOperators : List String := ["and", "or", "else", "is"]

/-- Whether a token can begin the single argument of a test that has no parentheses. -/
def beginsArgument (token : Token) : Bool :=
  match token with
  | .name t => !wordOperators.contains (String.ofList t)
  | .string _ => true
  | .int _ => true
  | .double _ => true
  | .symbol s => [Symbol.plus, .minus, .openBracket, .openBrace].contains s
  | _ => false

/-- Reads the arguments of a test. -/
def testArguments : Reader (List Expression) := do
  if ← accept (.symbol .openParen) then arguments parts.inner
  else if (← peek?).any beginsArgument then return [← operand parts]
  else return []

/-- Reads a filter or a test. -/
def applied? (e : Expression) : Reader (Option Expression) := do
  if ← accept (.symbol .bar) then
    let (filterName, arguments) ← filterCall parts.inner
    return some (filter filterName e arguments)
  if ← accept (word "is") then
    let negated ← accept (word "not")
    let testName ← Reader.name
    let result := test testName e (← testArguments parts)
    return some (if negated then not result else result)
  return none

/-- Reads an operand with its filters and tests. -/
def factor : Reader Expression := grow (operand parts) (applied? parts)

/-! ## Operators -/

/-- Reads a level of operators. -/
def level (operators : List (Symbol × Operator)) (tighter : Reader Expression) :
    Reader Expression :=
  grow tighter fun left ↦ do
    match ← peek? with
    | some (.symbol s) =>
      match operators.lookup s with
      | some operator =>
        modify List.tail
        return some (binary operator left (← tighter))
      | none => return none
    | _ => return none

def power : Reader Expression := level [(.power, .power)] (factor parts)

def product : Reader Expression :=
  level [(.times, .multiply), (.slash, .divide), (.floorSlash, .floorDivide), (.modulo, .modulo)]
    (power parts)

/-- Reads texts put together. -/
def concatenation : Reader Expression := level [(.tilde, .concatenate)] (product parts)

def sum : Reader Expression :=
  level [(.plus, .add), (.minus, .subtract)] (concatenation parts)

/-- The comparisons that are symbols. -/
def comparisons : List (Symbol × Comparison) := [
  (.equal, .equal), (.notEqual, .notEqual), (.less, .less), (.atMost, .atMost),
  (.greater, .greater), (.atLeast, .atLeast)]

/-- Reads the sign of a comparison, if one comes next. -/
def comparisonSign? : Reader (Option Comparison) := do
  if ← accept (word "in") then return some .member
  if ← accept (word "not") then
    expect (word "in")
    return some .notMember
  match ← peek? with
  | some (.symbol s) =>
    match comparisons.lookup s with
    | some c =>
      modify List.tail
      return some c
    | none => return none
  | _ => return none

/-- Reads comparisons, which hold if each of them does. -/
def comparisonChain : Reader Expression := do
  let first ← sum parts
  let links ← grow (return []) fun before ↦ do
    match ← comparisonSign? with
    | some c => return some (before ++ [(c, ← sum parts)])
    | none => return none
  return if links.isEmpty then first else comparison first links

def negation : Reader Expression := do
  let negations ← count (word "not")
  return negations.repeat not (← comparisonChain parts)

def conjunction : Reader Expression :=
  grow (negation parts) fun left ↦ do
    if ← accept (word "and") then return some (conjoined left (← negation parts)) else return none

def disjunction : Reader Expression :=
  grow (conjunction parts) fun left ↦ do
    if ← accept (word "or") then return some (or left (← conjunction parts)) else return none

/-- Reads a choice between two expressions. The one after `else` may be a choice again. -/
def choiceFrom : (fuel : Nat) → Reader Expression
  | 0 => throw .syntaxError
  | fuel + 1 =>
    grow (disjunction parts) fun yes ↦ do
      if ← accept (word "if") then
        let test ← disjunction parts
        let no ← if ← accept (word "else") then choiceFrom fuel else pure (literal .undefined)
        return some (conditional test yes no)
      else return none

def choice : Reader Expression := do choiceFrom parts ((← get).length + 1)

end Expression

/-- Reads an expression that may go so many levels deep. -/
def Reader.expression : (depth : Nat) → Reader Expression
  | 0 => throw .syntaxError
  | 1 => Expression.choice ⟨throw .syntaxError, throw .syntaxError⟩
  | depth + 2 => Expression.choice ⟨Expression.primary (expression depth), expression (depth + 1)⟩

/-- Reads an expression that is no choice, so that an `if` after it belongs to something else. The
expression itself takes no level. -/
def Reader.simpleExpression : (depth : Nat) → Reader Expression
  | 0 => throw .syntaxError
  | depth + 1 =>
    Expression.disjunction ⟨Expression.primary (expression depth), expression (depth + 1)⟩

end CompiledViews.Template
