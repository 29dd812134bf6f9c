import CompiledViews.Text.Quoted

/-!
# What can be wrong with a directive

The causes are kept apart from their wording, so that a caller can tell them apart without reading
messages.
-/

namespace CompiledViews

/-- What a rule found wrong with the expression it was given. -/
inductive ArgumentFault
  /-- There is no expression, or a blank one. -/
  | expressionMissing
  /-- The expression has no comma, so it is not a key and a value. -/
  | notKeyAndValue
  /-- The key is not a string in quotes. -/
  | keyUnquoted
  /-- The text between the key's quotes cannot name a variable. -/
  | badVariable (name : Text)
  /-- Nothing but blanks follows the comma. -/
  | valueMissing
  /-- A complaint in a host's own words. -/
  | other (message : Text)
  deriving DecidableEq

def ArgumentFault.message : ArgumentFault → Text
  | expressionMissing => "expected an expression".toList
  | notKeyAndValue => "expected 'key', value".toList
  | keyUnquoted => "key must be a quoted string".toList
  | badVariable name => name.quoted ++ " is not a valid variable name".toList
  | valueMissing => "missing value".toList
  | other message => message

/-- Why a directive could not be registered or expanded. -/
inductive DirectiveError
  /-- The name, of a directive or of the sanitize filter, is no identifier. -/
  | invalidName (name : Text)
  /-- The directive's expression cannot be used. -/
  | invalidArguments (directive : Text) (fault : ArgumentFault)
  /-- No rule has this name. -/
  | unknown (name : Text)
  deriving DecidableEq

def DirectiveError.message : DirectiveError → String
  | invalidName name => s!"Invalid directive name: {String.ofList name.quoted}"
  | invalidArguments directive fault =>
    s!"Invalid arguments for @{String.ofList directive}: {String.ofList fault.message}"
  | unknown name => s!"Unknown directive: @{String.ofList name}"

end CompiledViews
