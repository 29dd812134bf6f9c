import CompiledViews.Template.Expression.Reader

/-!
# Reading statements

A statement with a body reads statements up to its own end, so recursion is on the depth of bodies,
and that is limited together with the depth of the expressions in them. A body that is never ended
goes on to the end of the template; the token that has to follow is missed then.
-/

namespace CompiledViews.Template

namespace Statement

open Reader

/-- The names that nothing can be assigned to. -/
def reservedNames : List String :=
  ["true", "True", "false", "False", "none", "None", "loop", "self"]

/-- Reads a name that something can be assigned to. -/
def assignable : Reader Text := do
  let t ← Reader.name
  if reservedNames.contains (String.ofList t) then throw .syntaxError
  return t

/-- Whether a token ends a list of names. -/
def endsTargets (token? : Option Token) : Bool :=
  [some (.symbol .closeParen), some .outputEnd, some .blockEnd, some (.symbol .assign),
    some (word "in")].contains token?

/-- Reads names with commas between them, or names in parentheses in their places. One name without
a comma is no list. -/
def targetsFrom (nested : Reader Target) : (fuel : Nat) → List Target → Reader Target
  | 0, _ => throw .syntaxError
  | fuel + 1, before => do
    if !before.isEmpty then expect (.symbol .comma)
    if endsTargets (← peek?) then return .group before
    let target ←
      if ← accept (.symbol .openParen) then
        let target ← nested
        expect (.symbol .closeParen)
        pure target
      else Target.name <$> assignable
    if (← peek?) = some (.symbol .comma) then targetsFrom nested fuel (before ++ [target])
    else if before.isEmpty then return target
    else return .group (before ++ [target])

/-- Reads what is assigned to, with at most this many levels of parentheses. -/
def readTarget : (depth : Nat) → Reader Target
  | 0 => throw .syntaxError
  | depth + 1 => do targetsFrom (readTarget depth) ((← get).length + 1) []

/-- Reads what is assigned to. -/
def target : Reader Target := do readTarget ((← get).length + 1)

/-! ## Bodies -/

/-- The readers of what statements are made of. -/
structure Parts where
  /-- How many levels an expression may go deep. -/
  depth : Nat
  /-- Reads a statement in a body. -/
  statement : Reader Statement

variable (parts : Parts)

/-- Reads a body up to a statement that begins with one of the words; that word comes next. -/
def bodyFrom (ends : List Token) : (fuel : Nat) → Reader (List Statement)
  | 0 => return []
  | fuel + 1 => do
    match ← next? with
    | none => return []
    | some (.page t) => return text t :: (← bodyFrom ends fuel)
    | some .outputStart =>
      let e ← expression parts.depth
      expect .outputEnd
      return output e :: (← bodyFrom ends fuel)
    | some .blockStart =>
      match ← peek? with
      | none => throw .syntaxError
      | some token =>
        if ends.contains token then return []
        let s ← parts.statement
        expect .blockEnd
        return s :: (← bodyFrom ends fuel)
    | some _ => throw .syntaxError

/-- Reads the end of a statement and the body after it. -/
def body (ends : List String) : Reader (List Statement) := do
  expect .blockEnd
  bodyFrom parts (ends.map word) (← get).length

/-! ## The statements -/

def readConditional : (fuel : Nat) → Reader Statement
  | 0 => throw .syntaxError
  | fuel + 1 => do
    let test ← simpleExpression parts.depth
    let yes ← body parts ["endif", "else", "elif"]
    let token? ← next?
    if token? = some (word "else") then
      let no ← body parts ["endif"]
      let _ ← next?
      return conditional test yes no
    if token? = some (word "elif") then
      return conditional test yes [← readConditional fuel]
    return conditional test yes []

def readLoop : Reader Statement := do
  let target ← target
  expect (word "in")
  let source ← simpleExpression parts.depth
  let filter ← if ← accept (word "if") then some <$> expression parts.depth else pure none
  let _ ← accept (word "recursive")
  let each ← body parts ["endfor", "else"]
  let otherwise ← if ← accept (word "else") then body parts ["endfor"] else pure []
  let _ ← next?
  return loop target source filter each otherwise

/-- Reads filters with bars between them. -/
def filters : Reader (List (Text × List Expression)) := do
  let filterCall := Expression.filterCall (expression parts.depth)
  grow (return [← filterCall]) fun before ↦ do
    if ← accept (.symbol .bar) then return some (before ++ [← filterCall]) else return none

/-- Reads the value assigned. Values with commas between them make up a list. -/
def value : Reader Expression := do
  expect (.symbol .assign)
  let first ← expression parts.depth
  let all ← grow (return [first]) fun before ↦ do
    if ← accept (.symbol .comma) then return some (before ++ [← expression parts.depth])
    else return none
  return if all.length = 1 then first else .list all

/-- Reads a name with the attributes that come after it. -/
def assignableField : Reader Target := do
  let name ← assignable
  let fields ← grow (return []) fun before ↦ do
    if ← accept (.symbol .dot) then return some (before ++ [← Reader.name]) else return none
  match fields.reverse with
  | [] => return .name name
  | last :: rest => return .field (rest.reverse.foldl .field (.name name)) last

/-- Reads an assignment, of a value or of what a body writes. -/
def readAssignment : Reader Statement := do
  if (← peek?) = some (.symbol .openParen) then
    let target ← target
    return assign target (← value parts)
  let first ← assignableField
  match ← peek? with
  | some (.symbol .bar) =>
    modify List.tail
    let filters ← filters parts
    let written ← body parts ["endset"]
    let _ ← next?
    return capture first filters written
  | some .blockEnd =>
    let written ← body parts ["endset"]
    let _ ← next?
    return capture first [] written
  | some (.symbol .comma) =>
    let target ← targetsFrom target ((← get).length + 1) [first]
    return assign target (← value parts)
  | _ => return assign first (← value parts)

/-- Reads a block. Its name may be repeated at its end. -/
def readBlock : Reader Statement := do
  let name ← Reader.name
  let written ← body parts ["endblock"]
  let _ ← next?
  match ← peek? with
  | some (.name repeated) =>
    modify List.tail
    if repeated ≠ name then throw .syntaxError
  | _ => pure ()
  return block name written

/-- Reads words about the context, which mean nothing, since every view sees the same names; whether
there are any. -/
def contextWords : Reader Bool := do
  let without ← accept (word "without")
  let either ← if without then pure true else accept (word "with")
  if either then expect (word "context")
  return either

/-- Reads what is to be embedded. -/
def readEmbedded : Reader Statement := do
  let e ← expression parts.depth
  let context ← contextWords
  if ← accept (word "ignore") then
    expect (word "missing")
    if !context then
      let _ ← contextWords
    return embed e true
  return embed e false

/-- Reads a statement by its first word, with at most this many levels of bodies and brackets. -/
def read : (depth : Nat) → Reader Statement
  | 0 => throw .syntaxError
  | depth + 1 => do
    let parts : Parts := ⟨depth, read depth⟩
    match String.ofList (← Reader.name) with
    | "if" => readConditional parts ((← get).length + 1)
    | "for" => readLoop parts
    | "set" => readAssignment parts
    | "block" => readBlock parts
    | "extends" => return extend (← expression depth)
    | "include" => readEmbedded parts
    | _ => throw .syntaxError

/-- How deep bodies and brackets may be nested. -/
def depthLimit : Nat := 150

end Statement

open Reader in
/-- The template that tokens make up. -/
def readTemplate : Reader (List Statement) := do
  let depth := Statement.depthLimit
  Statement.bodyFrom ⟨depth, Statement.read depth⟩ [] ((← get).length + 1)

/-- The template that a text writes. Two blocks of it cannot have the same name. -/
def parse (t : Text) : Except FaultKind Template := do
  let (body, _) ← readTemplate.run (tokens t)
  let names := (Statement.blocksOfAll body).map (·.1)
  if names.eraseDups.length ≠ names.length then throw .syntaxError
  return ⟨body⟩

end CompiledViews.Template
