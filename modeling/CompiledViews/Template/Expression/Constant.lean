import CompiledViews.Template.Operator

/-!
# Constant expressions

An expression of literals, lists, mappings and operators has its value before anything is rendered.
This matters to `and` alone: of two constants it is the right one if both count as true, and
otherwise `False`, while of values that are not both known in advance it is the first one that does
not count as true.
-/

namespace CompiledViews.Template.Expression

/-- The conjunction of two constants. -/
def conjunctionOf (a b : Item) : Item := if a.isTrue && b.isTrue then b else .bool false

mutual

/-- The value of a constant expression; none for others, and where an operation is refused. -/
def constant? : Expression → Option Item
  | literal item => some item
  | list elements => (constants? elements).map .list
  | map entries => (constantEntries? entries).map .ofPairs
  | negate e => do (Operator.negate (← constant? e)).toOption
  | not e => (constant? e).map fun a ↦ .bool !a.isTrue
  | and left right => do return conjunctionOf (← constant? left) (← constant? right)
  | or left right => do
    let a ← constant? left
    let b ← constant? right
    return if a.isTrue then a else b
  | binary operator left right => do
    (operator.apply (← constant? left) (← constant? right)).toOption
  | comparison first links => do
    let a ← constant? first
    return .bool (← constantLinks? a links)
  | name _ => none
  | conditional .. => none
  | field .. => none
  | subscript .. => none
  | call .. => none
  | filter .. => none
  | test .. => none

def constants? : List Expression → Option (List Item)
  | [] => some []
  | e :: rest => do return (← constant? e) :: (← constants? rest)

def constantEntries? : List (Expression × Expression) → Option (List (Item × Item))
  | [] => some []
  | (key, value) :: rest => do
    let key ← constant? key
    let value ← constant? value
    return (key, value) :: (← constantEntries? rest)

/-- Whether constants compare as the links of a comparison say. -/
def constantLinks? (a : Item) : List (Comparison × Expression) → Option Bool
  | [] => some true
  | (c, e) :: rest => do
    let b ← constant? e
    let holds ← (c.apply a b).toOption
    return holds && (← constantLinks? b rest)

end

/-- The conjunction of two expressions. -/
def conjoined (left right : Expression) : Expression :=
  match constant? (and left right) with
  | some item => literal item
  | none => and left right

end CompiledViews.Template.Expression
