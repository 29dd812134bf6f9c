import CompiledViews.Data.Yaml.Node

/-!
# YAML

The data of a YAML document. Keys are text, whatever they look like: the key `1` is the string
`"1"`, and a key that is not a scalar is refused. Tags of the language itself say what a scalar is;
tags of the document's own are refused. An empty document is null.

Since aliases may stand in nodes that aliases stand for, a short document could be a huge tree, or
one without end; how often aliases are followed is therefore limited by the size of the document.
-/

namespace CompiledViews.Yaml

/-- The nesting that data may have. -/
def depthLimit : Nat := 128

/-- How often aliases may be followed, for each unit of the document's size. -/
def followLimit : Nat := 100

/-- A tag of the language itself. -/
def coreTag (name : String) : Text := ("tag:yaml.org,2002:" ++ name).toList

/-- Whether a tag belongs to the document. -/
def isLocal (tag : Option Text) : Bool := tag.any (·.head? == some '!')

def scalarValue? (tag : Option Text) (text : Text) (style : Style) : Option Value :=
  match tag with
  | none => if style = .plain then plainValue? text else some (.string text)
  | some tag =>
    if tag = coreTag "bool" then (boolean? text).map .bool
    else if tag = coreTag "int" then (integer? text).bind integerValue?
    else if tag = coreTag "float" then float? text
    else if tag = coreTag "null" then if isNull text then some .null else none
    else some (.string text)

/-- Goes through the nodes of a document, as long as there are aliases left that may be followed. -/
abbrev Follow (α : Type) := StateT Nat Option α

namespace Document

variable (document : Document)

/-- What a node stands for: the node that an alias leads to, or the node itself. -/
def target : Node → Follow Node
  | .aliasTo number => do
    match ← get with
    | 0 => failure
    | left + 1 =>
      set left
      document.anchored.lookup number
  | node => return node

def key (node : Node) : Follow Text := do
  match ← document.target node with
  | .scalar _ text _ => return text
  | _ => failure

/-- The value of a node whose parts have the values that `part` says. -/
def valueFrom (part : Node → Follow Value) (node : Node) : Follow Value := do
  match ← document.target node with
  | .scalar tag text style => if isLocal tag then failure else scalarValue? tag text style
  | .sequence tag elements =>
    if isLocal tag then failure else return .array (← elements.mapM part)
  | .mapping tag entries =>
    if isLocal tag then failure
    else return .ofEntries (← entries.mapM fun (k, v) ↦ do return (← document.key k, ← part v))
  | .aliasTo _ => failure

/-- The value of a node that may be nested `depth` levels deep. -/
def value : (depth : Nat) → Node → Follow Value
  | 0, node => do
    match ← document.target node with
    | .scalar tag text style => if isLocal tag then failure else scalarValue? tag text style
    | _ => failure
  | depth + 1, node => document.valueFrom (value depth) node

def value? : Option Value :=
  (document.value depthLimit document.root).run' (followLimit * document.root.size)

end Document

def parse? (text : Text) : Option Value := do
  match ← document? text with
  | none => return .null
  | some document => document.value?

end CompiledViews.Yaml
