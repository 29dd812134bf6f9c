import CompiledViews.Directive.Registry
import CompiledViews.Text.Property

/-!
# The built-in directives

Loops over posts, custom fields and variables, written in the template language. The functions they
call (`posts`, `query`, `reset_query`, `rows`, `get_field`) and the sanitize filter are the engine
host's.

`@acf` and `@acfhas` both open a loop, so `@acfempty` and `@acfend` go with either; `@acfhas` loops
at most once, with the field's value as `field`.
-/

namespace CompiledViews.Directive.Builtin

/-- The capability that turns the custom field directives off: somebody else provides fields. -/
def fieldCapability : Text := "get_field".toList

def statement (body : Text) : Text := "\x7b% ".toList ++ body ++ " %\x7d".toList

def output (body : Text) : Text := "\x7b\x7b ".toList ++ body ++ " \x7d\x7d".toList

def call (function argument : Text) : Text := function ++ '(' :: argument ++ [')']

/-- The trimmed expression, which must not be blank. -/
def required (directive : Text) (expr : Option Text) : Except DirectiveError Text :=
  match expr.map Text.trim with
  | some (c :: cs) => .ok (c :: cs)
  | _ => .error (.invalidArguments directive .expressionMissing)

/-- The text between two quotes of this kind; the two may not be one and the same. -/
def between? (quote : Char) (t : Text) : Option Text :=
  match t with
  | [] => none
  | c :: cs => if c = quote then Text.dropEnding? [quote] cs else none

/-- Takes `'key', value` apart. The first comma ends the key, whatever quotes surround it. -/
def keyAndValue (expr : Text) : Except ArgumentFault (Text × Text) :=
  match expr.splitOnce? ',' with
  | none => .error .notKeyAndValue
  | some (key, value) =>
    match (between? '\'' key.trim).or (between? '"' key.trim) with
    | none => .error .keyUnquoted
    | some name =>
      if name.isIdentifier then
        if value.trim.isEmpty then .error .valueMissing else .ok (name, value.trim)
      else .error (.badVariable name)

/-! ## The expansions -/

/-- Reads a directive without an expression, or ignores the one it has. -/
def constant (expansion : Text) (_ : Option Text) : Except DirectiveError Text := .ok expansion

/-- Opens the loop over the result of a query. -/
def query (expr : Option Text) : Except DirectiveError Text := do
  let expr ← required "wpquery".toList expr
  return statement ("for post in ".toList ++ call "query".toList expr)

/-- Opens the loop over the rows of a field. -/
def rows (expr : Option Text) : Except DirectiveError Text := do
  let expr ← required "acf".toList expr
  return statement ("for row in ".toList ++ call "rows".toList expr)

/-- Prints a field if it has a value. -/
def field (expr : Option Text) : Except DirectiveError Text := do
  let value := call "get_field".toList (← required "acffield".toList expr)
  return statement ("if ".toList ++ value) ++ output value ++ statement "endif".toList

/-- Opens a block that is run once if the field has a value. -/
def fieldGuard (expr : Option Text) : Except DirectiveError Text := do
  let value := call "get_field".toList (← required "acfhas".toList expr)
  return statement ("for field in [".toList ++ value ++ "] if field".toList)

/-- Prints an entry of the current row if it has a value. -/
def rowEntry (expr : Option Text) : Except DirectiveError Text := do
  let value := "row[".toList ++ (← required "acfsub".toList expr) ++ "]".toList
  return statement ("if ".toList ++ value) ++ output value ++ statement "endif".toList

/-- Sets a variable to a value that has gone through the sanitize filter. -/
def assignment (filter : Text) (expr : Option Text) : Except DirectiveError Text := do
  let expr ← required "var".toList expr
  match keyAndValue expr with
  | .ok (key, value) =>
    return statement
      ("set ".toList ++ key ++ " = (".toList ++ value ++ ") | ".toList ++ filter)
  | .error fault => .error (.invalidArguments "var".toList fault)

/-! ## The rules -/

/-- A rule that the capability for fields turns off. -/
def unlessFields (rule : Rule) : Rule :=
  rule.enabledWhen fun available ↦ !available.has fieldCapability

def named (name : String) (transform : Option Text → Except DirectiveError Text)
    (h : Text.isIdentifier name.toList = true) : Rule :=
  ⟨name.toList, transform, fun _ ↦ true, h⟩

/-- The built-in rules in order, for the given sanitize filter. -/
def rules (filter : Text) : List Rule := [
  named "wpposts" (constant (statement "for post in posts()".toList)) (by decide),
  named "wpquery" query (by decide),
  named "wpempty" (constant (statement "else".toList)) (by decide),
  named "wpend"
    (constant (statement "endfor".toList ++ output "reset_query()".toList)) (by decide),
  unlessFields (named "acf" rows (by decide)),
  unlessFields (named "acfempty" (constant (statement "else".toList)) (by decide)),
  unlessFields (named "acfend" (constant (statement "endfor".toList)) (by decide)),
  unlessFields (named "acffield" field (by decide)),
  unlessFields (named "acfhas" fieldGuard (by decide)),
  unlessFields (named "acfsub" rowEntry (by decide)),
  named "var" (assignment filter) (by decide)]

end Builtin

/-- Adds the built-in rules. The filter's name is looked at before any rule is added, so a registry
is never left with some of them. -/
def Registry.registerBuiltins (registry : Registry) (filter : Text) :
    Except DirectiveError Registry :=
  if filter.isIdentifier then .ok (registry.registerAll (Builtin.rules filter))
  else .error (.invalidName filter)

end CompiledViews.Directive
