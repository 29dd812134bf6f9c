import CompiledViews.Data.Yaml.Plain
import CompiledViews.Data.Yaml.Token

/-!
# The nodes of a YAML document

Tokens are read as a tree of scalars, sequences and mappings. Anchors are numbered by how many names
have been given so far, and an alias stands in the tree with the number that its name has there.
What it stands for in the end is the last node of the document whose anchor has this number. A name
that is given once more takes the next number without adding a name, so the name after it has the
same number: then an alias of the one stands for the node of the other.
-/

namespace CompiledViews.Yaml

/-- A node. Tags are kept where they decide what the node stands for. -/
inductive Node
  | scalar (tag : Option Text) (text : Text) (style : Style)
  | sequence (tag : Option Text) (elements : List Node)
  | mapping (tag : Option Text) (entries : List (Node × Node))
  /-- In place of the node whose anchor has this number. -/
  | aliasTo (number : Nat)
  deriving Inhabited

/-- The empty scalar, which stands where nothing is written. -/
def Node.empty (tag : Option Text) : Node := .scalar tag [] .plain

mutual

/-- The size of a node: scalars and aliases count once, the others twice. -/
def Node.size : Node → Nat
  | .scalar .. => 1
  | .aliasTo _ => 1
  | .sequence _ elements => sizes elements + 2
  | .mapping _ entries => entrySizes entries + 2

/-- The sizes of nodes together. -/
def sizes : List Node → Nat
  | [] => 0
  | node :: rest => node.size + sizes rest

/-- The sizes of keys and values together. -/
def entrySizes : List (Node × Node) → Nat
  | [] => 0
  | (key, value) :: rest => key.size + value.size + entrySizes rest

end

/-- What reading nodes has to remember. -/
structure Reader where
  /-- The tokens that are left. -/
  tokens : List Token
  /-- The names of anchors, each with the number it has now. -/
  names : List (Text × Nat) := []
  /-- The numbers of all anchors, the last one first. -/
  numbers : List Nat := []
  /-- The nodes with anchors that are complete, each with how many anchors came before its own. -/
  complete : List (Nat × Node) := []
  /-- The handles of tags. -/
  handles : List (Text × Text) := []

/-- The nodes with anchors by number, of the same number the last one first. -/
def Reader.anchored (r : Reader) : List (Nat × Node) :=
  ((List.range r.numbers.length).reverse.zip r.numbers).filterMap fun (before, number) ↦
    (r.complete.lookup before).map (number, ·)

/-- Reads something off the tokens, unless they are wrong. -/
abbrev Read (α : Type) := StateT Reader Option α

def peek : Read Token := do return (← get).tokens.head?.getD .streamEnd

def advance : Read Unit := modify fun r ↦ { r with tokens := r.tokens.drop 1 }

/-- The empty scalar without a tag. -/
def nothing : Node := Node.empty none

/-- The alias of a name, which has to be given before it. -/
def aliasOf (name : Text) : Read Node := do return .aliasTo (← (← get).names.lookup name)

/-- Reads a node that has an anchor, if there is one. -/
def anchoring (anchor : Option Text) (node : Read Node) : Read Node := do
  match anchor with
  | none => node
  | some name =>
    let r ← get
    let number := r.names.length
    set { r with
      names := (name, number) :: r.names.filter (·.1 ≠ name)
      numbers := number :: r.numbers }
    let node ← node
    modify fun s ↦ { s with complete := (r.numbers.length, node) :: s.complete }
    return node

/-- The handles that need not be declared. -/
def standardHandles : List (Text × Text) :=
  [(['!'], ['!']), (['!', '!'], "tag:yaml.org,2002:".toList)]

/-- The lone `!`. -/
def loneTag : Text := ['!']

/-- The full form of a tag. The lone `!` is not looked up. -/
def resolveTag (spelling : TagSpelling) : Read Text := do
  match spelling.handle with
  | none => return spelling.suffix
  | some handle =>
    if handle = loneTag ∧ spelling.suffix = [] then return loneTag
    let uri ← ((← get).handles ++ standardHandles).lookup handle
    return uri ++ spelling.suffix

/-- Reads the anchor and the tag before a node, in either order. -/
def properties : Read (Option Text × Option TagSpelling) := do
  match ← peek with
  | .anchor name =>
    advance
    match ← peek with
    | .tag spelling =>
      advance
      return (some name, some spelling)
    | _ => return (some name, none)
  | .tag spelling =>
    advance
    match ← peek with
    | .anchor name =>
      advance
      return (some name, some spelling)
    | _ => return (none, some spelling)
  | _ => return (none, none)

/-- Where a node may stand. -/
inductive Context
  /-- Within brackets: no blocks. -/
  | flow
  /-- A block may begin. -/
  | block
  /-- A block may begin, and a sequence at the column of its key needs no opening. -/
  | blockValue
  deriving DecidableEq

/-- What a call of the reader is to read. -/
inductive Want
  | node (context : Context)
  | blockElements
  | indentlessElements
  | blockEntries
  | flowElements (first : Bool)
  | flowEntries (first : Bool)

def Want.Result : Want → Type
  | node _ => Node
  | blockElements => List Node
  | indentlessElements => List Node
  | flowElements _ => List Node
  | blockEntries => List (Node × Node)
  | flowEntries _ => List (Node × Node)

/-- Whether a token ends the place of a value, leaving it empty. -/
def endsValue : Token → Bool
  | .key => true
  | .value => true
  | .blockEnd => true
  | _ => false

/-- Whether a token ends the place of a key or a value within brackets, leaving it empty. -/
def endsElement (inSequence : Bool) : Token → Bool
  | .value => true
  | .flowEntry => true
  | .flowSequenceEnd => inSequence
  | .flowMappingEnd => !inSequence
  | _ => false

/-- Reads a key in a sequence within brackets, after its mark. An empty one takes the token that
shows that it is empty. -/
def elementKey (node : Read Node) : Read Node := do
  if endsElement true (← peek) then
    advance
    return nothing
  else node

/-- Reads nodes. Every step within uses up a token, so the fuel of `document?` is never
exhausted. -/
def read : (fuel : Nat) → (want : Want) → Read want.Result
  | 0, _ => failure
  | fuel + 1, .node context => do
    if let .aliasName name ← peek then
      advance
      return (← aliasOf name : Node)
    let (anchor, spelling) ← properties
    let tag ← spelling.mapM resolveTag
    let node : Node ← anchoring anchor do
      match ← peek, context with
      | .blockEntry, .blockValue =>
        let elements ← read fuel .indentlessElements
        return (.sequence tag elements : Node)
      | .scalar text style, _ =>
        advance
        return (.scalar tag text style : Node)
      | .flowSequenceStart, _ =>
        advance
        let elements ← read fuel (.flowElements true)
        return (.sequence tag elements : Node)
      | .flowMappingStart, _ =>
        advance
        let entries ← read fuel (.flowEntries true)
        return (.mapping tag entries : Node)
      | .blockSequenceStart, .block | .blockSequenceStart, .blockValue =>
        advance
        let elements ← read fuel .blockElements
        return (.sequence tag elements : Node)
      | .blockMappingStart, .block | .blockMappingStart, .blockValue =>
        advance
        let entries ← read fuel .blockEntries
        return (.mapping tag entries : Node)
      | _, _ =>
        if anchor.isSome || spelling.isSome then return (Node.empty tag : Node) else failure
    return (node : Node)
  | fuel + 1, .blockElements => do
    match ← peek with
    | .blockEntry =>
      advance
      let element : Node ← match ← peek with
        | .blockEntry | .blockEnd => pure nothing
        | _ => read fuel (.node .block)
      let rest : List Node ← read fuel .blockElements
      return (element :: rest : List Node)
    | .blockEnd =>
      advance
      return ([] : List Node)
    | _ => failure
  | fuel + 1, .indentlessElements => do
    match ← peek with
    | .blockEntry =>
      advance
      let element : Node ← match ← peek with
        | .blockEntry | .key | .value | .blockEnd => pure nothing
        | _ => read fuel (.node .block)
      let rest : List Node ← read fuel .indentlessElements
      return (element :: rest : List Node)
    | _ => return ([] : List Node)
  | fuel + 1, .blockEntries => do
    match ← peek with
    | .key =>
      advance
      let key : Node ←
        if endsValue (← peek) then pure nothing else read fuel (.node .blockValue)
      let value : Node ← match ← peek with
        | .value => do
          advance
          if endsValue (← peek) then pure nothing else read fuel (.node .blockValue)
        | _ => pure nothing
      let rest : List (Node × Node) ← read fuel .blockEntries
      return ((key, value) :: rest : List (Node × Node))
    | .blockEnd =>
      advance
      return ([] : List (Node × Node))
    | _ => failure
  | fuel + 1, .flowElements first => do
    if let .flowSequenceEnd ← peek then
      advance
      return ([] : List Node)
    if !first then
      match ← peek with
      | .flowEntry => advance
      | _ => failure
    match ← peek with
    | .flowSequenceEnd =>
      advance
      return ([] : List Node)
    | .key =>
      advance
      let key : Node ← elementKey (read fuel (.node .flow))
      let value : Node ← match ← peek with
        | .value => do
          advance
          if endsElement true (← peek) then pure nothing else read fuel (.node .flow)
        | _ => pure nothing
      let rest : List Node ← read fuel (.flowElements false)
      return (.mapping none [(key, value)] :: rest : List Node)
    | _ =>
      let element : Node ← read fuel (.node .flow)
      let rest : List Node ← read fuel (.flowElements false)
      return (element :: rest : List Node)
  | fuel + 1, .flowEntries first => do
    if let .flowMappingEnd ← peek then
      advance
      return ([] : List (Node × Node))
    if !first then
      match ← peek with
      | .flowEntry => advance
      | _ => failure
    match ← peek with
    | .flowMappingEnd =>
      advance
      return ([] : List (Node × Node))
    | .key =>
      advance
      let key : Node ←
        if endsElement false (← peek) then pure nothing else read fuel (.node .flow)
      let value : Node ← match ← peek with
        | .value => do
          advance
          if endsElement false (← peek) then pure nothing else read fuel (.node .flow)
        | _ => pure nothing
      let rest : List (Node × Node) ← read fuel (.flowEntries false)
      return ((key, value) :: rest : List (Node × Node))
    | _ =>
      let key : Node ← read fuel (.node .flow)
      let rest : List (Node × Node) ← read fuel (.flowEntries false)
      return ((key, nothing) :: rest : List (Node × Node))

/-! ## Documents -/

/-- Reads the directives before a document; whether there were any, and one for the version. None
can be given twice. -/
def directives : (fuel : Nat) → (any version : Bool) → Read Bool
  | 0, any, _ => return any
  | fuel + 1, any, version => do
    match ← peek with
    | .version =>
      if version then failure
      advance
      directives fuel true true
    | .tagHandle handle uri =>
      if ((← get).handles.lookup handle).isSome then failure
      advance
      modify fun r ↦ { r with handles := (handle, uri) :: r.handles }
      directives fuel true version
    | _ => return any

/-- Goes past the ends of documents. -/
def documentEnds : (fuel : Nat) → Read Unit
  | 0 => return
  | fuel + 1 => do
    if let .documentEnd ← peek then
      advance
      documentEnds fuel

/-- Reads the only document of the tokens; none if there is no document at all. -/
def onlyDocument (fuel : Nat) : Read (Option Node) := do
  let declared ← directives fuel false false
  let content : Read Node := do
    match ← peek with
    | .version | .tagHandle .. | .documentStart | .documentEnd | .streamEnd =>
      return nothing
    | _ => read fuel (.node .block)
  let node ← match ← peek, declared with
    | .streamEnd, false => return none
    | .documentStart, _ => do
      advance
      content
    | _, true => failure
    | _, false => read fuel (.node .block)
  documentEnds fuel
  match ← peek with
  | .streamEnd => return some node
  | _ => failure

/-- A document: its root and the nodes that aliases can stand for, by number. -/
structure Document where
  root : Node
  anchored : List (Nat × Node)

/-- Reads a document; the outer option is none for a malformed document, the inner one for an empty
one. -/
def document? (text : Text) : Option (Option Document) := do
  let tokens ← tokens? text
  let (root?, r) ← (onlyDocument (2 * tokens.length + 2)).run { tokens }
  return root?.map fun root ↦ ⟨root, r.anchored⟩

end CompiledViews.Yaml
