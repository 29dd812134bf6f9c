import CompiledViews.Directive.Occurrence
import CompiledViews.Directive.Rule

/-!
# Registries of rules

Rules are applied in the order in which their names were first registered, each in a pass of its own
over what the rules before it have left. Registering a name again replaces the rule and keeps its
place. After the last rule, escaped occurrences lose one `@`.
-/

namespace CompiledViews.Directive

/-- The rules, in order of application. -/
structure Registry where
  rules : List Rule

namespace Registry

def empty : Registry := ⟨[]⟩

/-- A list of rules with `rule` in the place of the one of its name, or at the end. -/
def place (rule : Rule) : List Rule → List Rule
  | [] => [rule]
  | first :: rest =>
    if first.name = rule.name then rule :: rest else first :: place rule rest

/-- Adds a rule, or replaces the one of the same name in its place. -/
def register (registry : Registry) (rule : Rule) : Registry := ⟨place rule registry.rules⟩

/-- Adds the rules of a list one after the other. -/
def registerAll (registry : Registry) (rules : List Rule) : Registry :=
  rules.foldl register registry

/-- Adds an always enabled rule that cannot fail. -/
def directive (registry : Registry) (name : Text) (handler : Option Text → Text) :
    Except DirectiveError Registry := do
  return registry.register (← Rule.new name fun expr ↦ .ok (handler expr))

def get? (registry : Registry) (name : Text) : Option Rule :=
  registry.rules.find? (·.name == name)

def names (registry : Registry) : List Text := registry.rules.map (·.name)

def size (registry : Registry) : Nat := registry.rules.length

def expandOne (registry : Registry) (available : Capabilities) (name : Text)
    (expr : Option Text) : Except DirectiveError Text :=
  match registry.get? name with
  | some rule => rule.apply available expr
  | none => .error (.unknown name)

/-- What the rule makes of one piece of a source. -/
def expandPiece (available : Capabilities) (rule : Rule) : Piece → Except DirectiveError Text
  | .plain c => .ok [c]
  | .call arguments => rule.apply available (arguments.map (·.expr))

/-- What the rule makes of pieces; the first error, from the left, ends it. -/
def expandPieces (available : Capabilities) (rule : Rule) :
    List Piece → Except DirectiveError Text
  | [] => .ok []
  | piece :: rest => do
    let start ← expandPiece available rule piece
    return start ++ (← expandPieces available rule rest)

/-- One pass: every occurrence of the rule's name is replaced. -/
def pass (available : Capabilities) (rule : Rule) (source : Text) : Except DirectiveError Text :=
  expandPieces available rule (pieces rule.name source)

/-- The passes of all rules, in order. -/
def passes (available : Capabilities) : List Rule → Text → Except DirectiveError Text
  | [], source => .ok source
  | rule :: rest, source => do passes available rest (← pass available rule source)

/-- Whether a text has two `@` in a row. -/
def hasDoubledAt : Text → Bool
  | '@' :: '@' :: _ => true
  | _ :: cs => hasDoubledAt cs
  | [] => false

/-- Makes literal the escaped occurrences of all names; a text without `@@` is left as it is. -/
def unescapeAll (names : List Text) (text : Text) : Text :=
  names.foldl (fun text name ↦ if hasDoubledAt text then unescape name text else text) text

/-- Expands every directive of a source. -/
def expand (registry : Registry) (available : Capabilities) (source : Text) :
    Except DirectiveError Text :=
  (passes available registry.rules source).map (unescapeAll registry.names)

/-- How a registry shows itself: its rules by name. -/
def summary (registry : Registry) : Text :=
  let shown := registry.names.map fun name ↦
    "DirectiveRule \x7b name: ".toList ++ name.quoted ++ ", .. \x7d".toList
  "DirectiveRegistry \x7b rules: [".toList ++ Text.join ", ".toList shown ++ "] \x7d".toList

end Registry

end CompiledViews.Directive
