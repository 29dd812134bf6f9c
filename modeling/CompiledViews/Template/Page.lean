import CompiledViews.Template.Evaluation

/-!
# Rendering a page

Statements are run one after the other. A body that lies elsewhere (a template that is embedded, a
block, what an extension is of) is run by a function given for it; tying that knot takes fuel, since
templates may name one another in circles. The limit on the depth of a rendering is reached long
before the fuel is used up.
-/

namespace CompiledViews.Template

open Render

/-! ## Assignment -/

section

variable (evaluate : Expression → Render Item)

mutual

/-- Assigns a value to a target, taking it apart where there are several names. Nothing has
attributes that can be assigned to. -/
def Target.store : Target → Item → Render Unit
  | .name n, item => Render.store n item
  | .field e _, _ => do
    let _ ← evaluate e
    fail .invalidOperation
  | .group targets, item =>
    match item.members? with
    | some members =>
      if members.length = targets.length then Target.storeAll targets members
      else fail .cannotUnpack
    | none => fail .cannotUnpack

def Target.storeAll : List Target → List Item → Render Unit
  | target :: targets, item :: items => do
    Target.store target item
    Target.storeAll targets items
  | _, _ => return

end

end

/-! ## Loops -/

/-- The passes of a loop over some elements, each with its element. -/
def passesFrom (loop length index : Nat) (previous : Item) : List Item → List (Item × Pass)
  | [] => []
  | item :: rest =>
    (item, ⟨⟨loop, index, length⟩, previous, rest.headD .undefined, none⟩) ::
      passesFrom loop length (index + 1) item rest

/-- The passes of a loop over some elements. -/
def passes (loop : Nat) (items : List Item) : List (Item × Pass) :=
  passesFrom loop items.length 0 .undefined items

/-- Sets the pass of the innermost frame. What has been noted stays, the names do not. -/
def enterPass (pass : Pass) : Render Unit :=
  modifyFrame fun frame ↦
    { names := [], pass? := some { pass with noted := frame.pass?.bind Pass.noted } }

/-- Counts a loop that begins. -/
def countLoop : Render Nat := modifyGet fun s ↦ (s.loops, { s with loops := s.loops + 1 })

/-- The elements that a loop can go through. -/
def elementsOf (item : Item) : Render (List Item) :=
  match item.elements? with
  | some items => return items
  | none => fail .invalidOperation

/-! ## Other templates -/

/-- A template's own blocks. -/
def bodies (t : Template) : Entries Bodies :=
  Entries.ofList (t.blocks.map fun (name, body) ↦ (name, [body]))

/-- Blocks with those of another template behind them. -/
def behind (blocks others : Entries Bodies) : Entries Bodies :=
  others.foldl (fun all (name, bodies) ↦ all.insert name ((all.get? name).getD [] ++ bodies)) blocks

/-- What an embedded template adds to the depth. -/
def embeddingDepth : Nat := 10

/-- Asks for the first template there is of those named; none if there is none at all. -/
def firstTemplate? : List Item → Render (Option Template)
  | [] => return none
  | .string name _ :: rest => do
    match ← ExceptT.lift (template name).run with
    | .ok t => return some t
    | .error fault =>
      if fault.kind = .templateNotFound then firstTemplate? rest else throw fault
  | _ :: _ => fail .invalidOperation

/-- What an item names: a list its elements, a function nothing, and anything else itself. -/
def namesIn (item : Item) : List Item :=
  if item matches .function _ then [] else item.members?.getD [item]

/-- Runs a template in the place of another one's statement. It sees the names assigned so far, and
has blocks of its own. -/
def runEmbedded (runBody : List Statement → Render Unit) (t : Template) : Render Unit := do
  let before ← get
  set { before with
    blocks := t.bodies, current? := none, outerDepth := before.outerDepth + embeddingDepth }
  checkDepth
  causing .badInclude (runBody t.body)
  modify fun s ↦ { s with
    blocks := before.blocks, current? := before.current?, outerDepth := before.outerDepth
    lineage := before.lineage }

/-- Embeds the first template there is of those named. -/
def embed (runBody : List Statement → Render Unit) (item : Item) (ignoreMissing : Bool) :
    Render Unit := do
  let names := namesIn item
  match ← firstTemplate? names with
  | some t => runEmbedded runBody t
  | none => if !ignoreMissing && !names.isEmpty then fail .templateNotFound

/-- Makes the template an extension of the one named: its blocks come before that one's, and what it
writes from here on is of no use. -/
def extend (item : Item) : Render Unit := do
  if (← get).layout?.isSome then fail .invalidOperation
  match item with
  | .string name _ =>
    if (← get).lineage.contains name then fail .invalidOperation
    let t ← template name
    modify fun s ↦ { s with
      lineage := name :: s.lineage, blocks := behind s.blocks t.bodies
      layout? := some (t.body, s.discarding), discarding := true }
  | _ => fail .invalidOperation

/-- Runs a body of a block, in the place of others. -/
def runBlock (runBody : List Statement → Render Unit) (name : Text) (body : List Statement)
    (behind : Bodies) : Render Unit := do
  let before ← modifyGet fun s ↦ (s.current?, { s with current? := some (name, behind) })
  inFrame none (runBody body)
  modify fun s ↦ { s with current? := before }

/-- Runs a block where it stands. In an extension nothing is written there. -/
def callBlock (runBody : List Statement → Render Unit) (name : Text) : Render Unit := do
  let s ← get
  if s.layout?.isNone && !s.discarding then
    match s.blocks.get? name with
    | some (body :: behind) => runBlock runBody name body behind
    | _ => fail .invalidOperation

/-- What the block in whose place the present one stands writes. -/
def fromBlock (runBody : List Statement → Render Unit) : Render Item := do
  match (← get).current? with
  | some (name, body :: behind) =>
    let t ← causing .evalBlock (captured (runBlock runBody name body behind))
    return .string t true
  | _ => fail .invalidOperation

/-! ## Statements -/

namespace Statement

variable (extensions : Extensions) (runBody : List Statement → Render Unit)

/-- The value of an expression in a statement. -/
def valueOf (e : Expression) : Render Item := e.evaluate extensions (fromBlock runBody)

/-- The elements that a condition holds for. -/
def selected (target : Target) (condition : Expression) (items : List Item) :
    Render (List Item) :=
  inFrame none <| items.filterM fun item ↦ do
    target.store (valueOf extensions runBody) item
    return (← valueOf extensions runBody condition).isTrue

def filtered (item : Item) : List (Text × List Expression) → Render Item
  | [] => return item
  | (name, arguments) :: rest => do
    let arguments ← arguments.mapM (valueOf extensions runBody)
    filtered (← applyFilter extensions name (item :: arguments)) rest

mutual

/-- Runs a statement. -/
def run : Statement → Render Unit
  | text t => write t
  | output e => do write (← valueOf extensions runBody e).escaped
  | conditional test yes no => do
    if (← valueOf extensions runBody test).isTrue then runAll yes else runAll no
  | loop target source filter body otherwise => do
    let all ← elementsOf (← valueOf extensions runBody source)
    let items ← match filter with
      | some condition => selected extensions runBody target condition all
      | none => pure all
    let loop ← countLoop
    inFrame none <| (passes loop items).forM fun (item, pass) ↦ do
      enterPass pass
      target.store (valueOf extensions runBody) item
      runAll body
    if items.isEmpty then runAll otherwise
  | assign target e => do
    target.store (valueOf extensions runBody) (← valueOf extensions runBody e)
  | capture target filters body => do
    let t ← captured (runAll body)
    let item ← filtered extensions runBody (.string t true) filters
    target.store (valueOf extensions runBody) item
  | block name _ => callBlock runBody name
  | extend e => do Template.extend (← valueOf extensions runBody e)
  | embed e ignoreMissing => do
    Template.embed runBody (← valueOf extensions runBody e) ignoreMissing

def runAll : List Statement → Render Unit
  | [] => return
  | s :: rest => do
    run s
    runAll rest

end

end Statement

/-! ## Templates -/

/-- Runs a body that stands by itself, and then what it has turned out to be an extension of. -/
def runBody (extensions : Extensions) : (fuel : Nat) → List Statement → Render Unit
  | 0, _ => fail .invalidOperation
  | fuel + 1, body => do
    let outer ← modifyGet fun s ↦ (s.layout?, { s with layout? := none })
    Statement.runAll extensions (runBody extensions fuel) body
    if let some (layout, discarding) := (← get).layout? then
      modify fun s ↦ { s with layout? := none, discarding }
      runBody extensions fuel layout
    modify fun s ↦ { s with layout? := outer }

/-- More bodies than can be open at a time. -/
def bodyLimit : Nat := twoTo 20

/-- What a page has come to: its text or a fault, and the functions called on the way. -/
structure Page where
  result : Except Fault Text
  calls : List Text

/-- How far a rendering has come that begins. -/
def Progress.start (t : Template) (data : ViewData) : Progress where
  written := []
  discarding := false
  frames := [⟨data.map fun (key, value) ↦ (key, .ofValue value), none⟩]
  loops := 0
  outerDepth := 0
  calls := []
  lineage := []
  blocks := t.bodies
  current? := none
  layout? := none

def render (t : Template) (extensions : Extensions) (data : ViewData) : Rendering Page := do
  let (result, s) ← (runBody extensions bodyLimit t.body).run.run (.start t data)
  return ⟨result.map fun _ ↦ s.written.reverse.flatten, s.calls.reverse⟩

end CompiledViews.Template
