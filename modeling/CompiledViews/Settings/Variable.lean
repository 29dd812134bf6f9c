import CompiledViews.Text.Alphanumeric

/-!
# Variables in settings

Paths in the settings may refer to variables of the environment, as `$NAME`, `${NAME}` or
`${NAME:-default}`. The text is gone through once: neither a variable's value nor a default is
looked at again.
-/

namespace CompiledViews

/-- The variables of the environment that are set. -/
abbrev Environment := List (Text × Text)

namespace Settings

def isVariableCharacter (c : Char) : Bool := Text.isAlphanumeric c || c == '_'

/-- The parts of a text before and after the first `:-`. -/
def splitDefault? : Text → Option (Text × Text)
  | ':' :: '-' :: rest => some ([], rest)
  | c :: rest => (splitDefault? rest).map (.map (c :: ·) id)
  | [] => none

/-- A reference to a variable after its dollar sign. -/
inductive Reference
  /-- A variable, what to put when it is not set, and the length of the reference. -/
  | named (name : Text) (default : Option Text) (length : Nat)
  /-- Text that stands for itself, and its length. -/
  | literal (text : Text) (length : Nat)

/-- What stands after a dollar sign. A name is as long as possible. In braces, `:-` separates the
name from the default, unless no name would be left. Any other dollar sign is a dollar sign, and two
of them are one. -/
def readReference (t : Text) : Reference :=
  match t with
  | '$' :: _ => .literal ['$'] 1
  | '\x7b' :: rest =>
    match rest.dropWhile (· != '\x7d') with
    | [] => .literal ['$', '\x7b'] 1
    | _ :: _ =>
      let inner := rest.takeWhile (· != '\x7d')
      match splitDefault? inner with
      | some (c :: name, default) => .named (c :: name) (some default) (inner.length + 2)
      | _ => .named inner none (inner.length + 2)
  | t =>
    let name := t.takeWhile isVariableCharacter
    if name.isEmpty then .literal ['$'] 0 else .named name none name.length

/-- Puts in the values of variables; an error names one that is not set. The first `skip` characters
belong to a reference already dealt with. -/
def expandFrom (environment : Environment) : (skip : Nat) → Text → Except Text Text
  | _, [] => .ok []
  | skip + 1, _ :: rest => expandFrom environment skip rest
  | 0, c :: rest =>
    if c = '$' then
      match readReference rest with
      | .literal text length => return text ++ (← expandFrom environment length rest)
      | .named name default length =>
        match (environment.lookup name).or default with
        | some value => return value ++ (← expandFrom environment length rest)
        | none => .error name
    else return c :: (← expandFrom environment 0 rest)

/-- A text with the values of variables in place of the references to them. -/
def expand (environment : Environment) (t : Text) : Except Text Text := expandFrom environment 0 t

end Settings

end CompiledViews
