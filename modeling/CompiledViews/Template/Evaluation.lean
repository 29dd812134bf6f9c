import CompiledViews.Template.Filter
import CompiledViews.Template.Rendering

/-!
# Evaluating expressions

While a template is rendered there is a page that grows, a stack of frames with the names assigned
so far, and the blocks that may be run. An expression reads the frames, and may call functions of
the host; which ones were called is kept, also where the rendering fails later on.
-/

namespace CompiledViews.Template

/-- What a host adds to the language. -/
structure Extensions where
  functions : Entries Operation
  /-- Filters; they count before those that every template has. -/
  filters : Entries Operation

/-- The pass a loop is in. -/
structure Pass where
  place : Place
  previous : Item
  next : Item
  /-- The values last found to be new. -/
  noted : Option (List Item)

/-- The pass as a value. -/
def Pass.item (pass : Pass) : Item := .ofPlace pass.place pass.previous pass.next

/-- The names that are assigned in one place, and the pass if that is a loop. -/
structure Frame where
  names : Entries Item
  pass? : Option Pass

def Frame.get? (frame : Frame) (name : Text) : Option Item :=
  (frame.names.get? name).or <|
    if name = "loop".toList then frame.pass?.map Pass.item else none

/-- The bodies of a block: its own, and then those of the blocks in whose place it stands. -/
abbrev Bodies := List (List Statement)

/-- How far a rendering has come. -/
structure Progress where
  /-- What is written, the last piece first. -/
  written : List Text
  /-- Whether what is written now is of no use. -/
  discarding : Bool
  /-- The frames, innermost first. -/
  frames : List Frame
  /-- How many loops have begun. -/
  loops : Nat
  /-- What the templates around the present one add to the depth. -/
  outerDepth : Nat
  /-- The functions called, the last one first. -/
  calls : List Text
  /-- The templates that the present one extends. -/
  lineage : List Text
  blocks : Entries Bodies
  /-- The block being run, with the bodies it stands in the place of. -/
  current? : Option (Text × Bodies)
  /-- What is to be run after an extension, and whether that is written to no use. -/
  layout? : Option (List Statement × Bool)

/-- A step of a rendering. -/
abbrev Render (α : Type) := ExceptT Fault (StateT Progress Rendering) α

namespace Render

/-- Fails with a fault of this kind. -/
def fail {α : Type} (kind : FaultKind) : Render α := throw (.plain kind)

def ofResult {α : Type} : Except FaultKind α → Render α
  | .ok a => pure a
  | .error kind => fail kind

def perform (operation : Operation) (arguments : List Item) : Render Item :=
  match operation arguments with
  | .ok item => pure item
  | .error fault => throw fault

/-- Asks for a template. -/
def template (name : Text) : Render Template := ExceptT.mk (StateT.lift (Rendering.ask name))

/-- Does something and, where that fails, reports it as the cause of another fault. -/
def causing {α : Type} (kind : FaultKind) (action : Render α) : Render α :=
  tryCatch action fun fault ↦ throw (.within kind fault)

/-! ## The page -/

def write (t : Text) : Render Unit :=
  modify fun s ↦ if s.discarding then s else { s with written := t :: s.written }

/-- Does something and takes what it writes off the page. -/
def captured (action : Render Unit) : Render Text := do
  let before ← modifyGet fun s ↦ (s, { s with written := [], discarding := false })
  action
  modifyGet fun s ↦ (s.written.reverse.flatten,
    { s with written := before.written, discarding := before.discarding })

/-! ## The frames -/

/-- How deep a rendering may go. -/
def depthLimit : Nat := 500

/-- Fails where a rendering has gone too deep. -/
def checkDepth : Render Unit := do
  let s ← get
  if depthLimit < s.frames.length + s.outerDepth then fail .invalidOperation

/-- Does something in a frame of its own. -/
def inFrame {α : Type} (pass? : Option Pass) (action : Render α) : Render α := do
  checkDepth
  modify fun s ↦ { s with frames := ⟨[], pass?⟩ :: s.frames }
  let a ← action
  modify fun s ↦ { s with frames := s.frames.tail }
  return a

/-- Changes the innermost frame. -/
def modifyFrame (f : Frame → Frame) : Render Unit :=
  modify fun s ↦ { s with frames := match s.frames with
    | [] => []
    | frame :: rest => f frame :: rest }

/-- Assigns a value to a name. -/
def store (name : Text) (item : Item) : Render Unit :=
  modifyFrame fun frame ↦ { frame with names := frame.names.insert name item }

/-- The value of a name, if it has one: in the frames, or else as a function of the host. -/
def lookUp? (extensions : Extensions) (name : Text) : Render (Option Item) := do
  match (← get).frames.findSome? (·.get? name) with
  | some item => return some item
  | none => return if (extensions.functions.get? name).isSome then some (.function name) else none

/-! ## Calls -/

/-- Calls a value, which has to be a function. -/
def call (extensions : Extensions) (callee : Item) (arguments : List Item) : Render Item := do
  match callee with
  | .function name =>
    match extensions.functions.get? name with
    | some operation =>
      modify fun s ↦ { s with calls := name :: s.calls }
      perform operation arguments
    | none => fail .unknownFunction
  | _ => fail .invalidOperation

/-- Calls a loop by its name, with the elements to go through inside of it. No loop can be. -/
def callLoop (arguments : List Item) : Render Item := do
  if arguments.length ≠ 1 then fail .invalidOperation
  else if (← get).frames.any (·.pass?.isSome) then fail .invalidOperation
  else fail .unknownFunction

/-- Notes values in a loop, and tells whether they are not those last noted there. -/
def noteInLoop (loop : Nat) (arguments : List Item) : List Frame → Bool × List Frame
  | [] => (true, [])
  | frame :: rest =>
    match frame.pass? with
    | some pass =>
      if pass.place.loop = loop then
        if pass.noted.any (Item.areEqual · arguments) then (false, frame :: rest)
        else (true, { frame with pass? := some { pass with noted := some arguments } } :: rest)
      else (noteInLoop loop arguments rest).map id (frame :: ·)
    | none => (noteInLoop loop arguments rest).map id (frame :: ·)

/-- Calls a method that only loops have: one that chooses an argument by the pass, or one that tells
whether the arguments have changed. -/
def callLoopMethod? (place : Place) (method : Text) (arguments : List Item) :
    Option (Render Item) :=
  match String.ofList method with
  | "cycle" => some (return (arguments[place.index % arguments.length]?).getD .undefined)
  | "changed" => some <| modifyGet fun s ↦
      let (isNew, frames) := noteInLoop place.loop arguments s.frames
      (.bool isNew, { s with frames })
  | _ => none

/-- Calls a method: one of a loop, or a function in a mapping. -/
def callMethod (extensions : Extensions) (object : Item) (method : Text) (arguments : List Item) :
    Render Item := do
  match object with
  | .map entries place? =>
    match place?.bind (callLoopMethod? · method arguments) with
    | some called => called
    | none =>
      match Item.lookUp (.text method) entries with
      | some callee => call extensions callee arguments
      | none => fail .unknownMethod
  | _ => fail .unknownMethod

/-- Applies the operation of this name, if there is one. -/
def applyNamed (operation? : Option Operation) (unknown : FaultKind) (arguments : List Item) :
    Render Item :=
  match operation? with
  | some operation => perform operation arguments
  | none => fail unknown

/-- The filter of this name: one of the host, or else one that every template has. -/
def filter? (extensions : Extensions) (name : Text) : Option Operation :=
  (extensions.filters.get? name).or (Filter.builtin? name)

def applyFilter (extensions : Extensions) (name : Text) (arguments : List Item) : Render Item :=
  applyNamed (filter? extensions name) .unknownFilter arguments

/-- The test of this name. Some look at more than the values: at what names there are, or at whether
both values come from the same place. -/
def test? (extensions : Extensions) (samePlace : Bool) (name : Text) : Option Operation :=
  match String.ofList name with
  | "filter" => some (Test.ofName fun n ↦ (filter? extensions n).isSome)
  | "test" => some <| Test.ofName fun n ↦
      (Test.builtin? n).isSome || ["filter", "test", "sameas"].contains (String.ofList n)
  | "sameas" => some (Test.ofTwo (Test.isSame samePlace))
  | _ => Test.builtin? name

/-- Looks into a value; what is not there cannot be looked into. -/
def inside (item : Item) (found : Item → Item) : Render Item :=
  if item matches .undefined then fail .undefinedError else return found item

end Render

namespace Expression

open Render

variable (extensions : Extensions) (fromBlock : Render Item)

mutual

/-- The value of an expression. What the block in whose place the present one stands writes is
`fromBlock`. -/
def evaluate : Expression → Render Item
  | literal item => return item
  | name n => return (← lookUp? extensions n).getD .undefined
  | list elements => return .list (← evaluateAll elements)
  | map entries => return .ofPairs (← evaluateEntries entries)
  | negate e => do ofResult (Operator.negate (← evaluate e))
  | not e => return .bool !(← evaluate e).isTrue
  | and left right => do
    let a ← evaluate left
    if a.isTrue then evaluate right else return a.visited
  | or left right => do
    let a ← evaluate left
    if a.isTrue then return a.visited else evaluate right
  | binary operator left right => do
    let a ← evaluate left
    let b ← evaluate right
    ofResult (operator.apply a b)
  | comparison first links => do
    let a ← evaluate first
    return .bool (← evaluateLinks a links)
  | conditional condition yes no => do
    if (← evaluate condition).isTrue then evaluate yes else evaluate no
  | field e n => do inside (← evaluate e) (Item.getAttribute n)
  | subscript e key => do
    let item ← evaluate e
    let key ← evaluate key
    inside item (Item.subscript key)
  | call (name n) arguments => do
    let arguments ← evaluateAll arguments
    if n = "super".toList then
      if arguments.isEmpty then fromBlock else fail .invalidOperation
    else if n = "loop".toList then callLoop arguments
    else
      match ← lookUp? extensions n with
      | some callee => Render.call extensions callee arguments
      | none => fail .unknownFunction
  | call (field e method) arguments => do
    let object ← evaluate e
    callMethod extensions object method (← evaluateAll arguments)
  | call callee arguments => do
    let callee ← evaluate callee
    Render.call extensions callee (← evaluateAll arguments)
  | filter n e arguments => do
    let item ← evaluate e
    applyFilter extensions n (item :: (← evaluateAll arguments))
  | test n e arguments => do
    let item ← evaluate e
    let samePlace := match arguments with
      | [other] => e.isSamePlace other
      | _ => false
    applyNamed (test? extensions samePlace n) .unknownTest (item :: (← evaluateAll arguments))

def evaluateAll : List Expression → Render (List Item)
  | [] => return []
  | e :: rest => do
    let item ← evaluate e
    return item :: (← evaluateAll rest)

/-- Whether a value and those of the links compare as the links say; what comes after one that does
not hold is not looked at. -/
def evaluateLinks (a : Item) : List (Comparison × Expression) → Render Bool
  | [] => return true
  | (c, e) :: rest => do
    let b ← evaluate e
    if ← ofResult (c.apply a b) then evaluateLinks b rest else return false

def evaluateEntries : List (Expression × Expression) → Render (List (Item × Item))
  | [] => return []
  | (key, value) :: rest => do
    let key ← evaluate key
    let value ← evaluate value
    return (key, value) :: (← evaluateEntries rest)

end

end Expression

end CompiledViews.Template
