import CompiledViews.Template.Item

/-!
# The trees of a template

Expressions are what an output, a condition or a loop computes; statements are what a template is
made of. A block's body stands in the tree where the block does, and again in the template's table
of blocks, from which it is run: there another template may come before it.
-/

namespace CompiledViews

namespace Template

inductive Operator
  | add | subtract | multiply | divide | floorDivide | modulo | power
  | concatenate
  deriving DecidableEq

inductive Comparison
  | equal | notEqual | less | atMost | greater | atLeast
  /-- The left value is in the right one. -/
  | member
  | notMember
  deriving DecidableEq

inductive Expression
  | literal (item : Item)
  | name (name : Text)
  | list (elements : List Expression)
  | map (entries : List (Expression × Expression))
  | negate (e : Expression)
  | not (e : Expression)
  | and (left right : Expression)
  | or (left right : Expression)
  | binary (operator : Operator) (left right : Expression)
  /-- Whether each value compares so with the next one. -/
  | comparison (first : Expression) (links : List (Comparison × Expression))
  | conditional (test yes no : Expression)
  | field (e : Expression) (name : Text)
  | subscript (e key : Expression)
  | call (callee : Expression) (arguments : List Expression)
  | filter (name : Text) (e : Expression) (arguments : List Expression)
  | test (name : Text) (e : Expression) (arguments : List Expression)
  deriving Inhabited

/-- Whether two expressions read the same place: a name, or an attribute of such a place. -/
def Expression.isSamePlace : Expression → Expression → Bool
  | .name m, .name n => m == n
  | .field e m, .field f n => m == n && e.isSamePlace f
  | _, _ => false

/-- What a value is assigned to: a name, an attribute of something, or names for the elements of a
list. -/
inductive Target
  | name (name : Text)
  | field (e : Expression) (name : Text)
  | group (targets : List Target)

inductive Statement
  | text (t : Text)
  | output (e : Expression)
  | conditional (test : Expression) (yes no : List Statement)
  /-- Goes through the elements of `source` that pass `filter`; `otherwise` is for none of them. -/
  | loop (target : Target) (source : Expression) (filter : Option Expression)
    (body otherwise : List Statement)
  | assign (target : Target) (e : Expression)
  /-- Assigns what the body writes, after the filters. -/
  | capture (target : Target) (filters : List (Text × List Expression)) (body : List Statement)
  | block (name : Text) (body : List Statement)
  /-- Makes the template an extension of the one named. -/
  | extend (e : Expression)
  /-- Renders the template named in this place, or the first one there is of those named. -/
  | embed (e : Expression) (ignoreMissing : Bool)

namespace Statement

mutual

/-- The blocks of a statement, at any depth. -/
def blocks : Statement → List (Text × List Statement)
  | conditional _ yes no => blocksOfAll yes ++ blocksOfAll no
  | loop _ _ _ body otherwise => blocksOfAll body ++ blocksOfAll otherwise
  | capture _ _ body => blocksOfAll body
  | block name body => (name, body) :: blocksOfAll body
  | text _ => []
  | output _ => []
  | assign .. => []
  | extend _ => []
  | embed .. => []

def blocksOfAll : List Statement → List (Text × List Statement)
  | [] => []
  | s :: rest => blocks s ++ blocksOfAll rest

end

end Statement

end Template

structure Template where
  body : List Template.Statement

/-- The blocks of a template, by name. -/
def Template.blocks (t : Template) : List (Text × List Template.Statement) :=
  Template.Statement.blocksOfAll t.body

end CompiledViews
