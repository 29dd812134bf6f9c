import CompiledViews.Disk.Lookup

/-!
# Changing the disk

Every change reads the clock and stamps what it changes, the directory around it included. A file is
replaced in one step: its new content is complete before the name leads to it.
-/

namespace CompiledViews.Disk

/-- Reads a fact off the disk. -/
def query {ε α : Type} (f : Disk → Except ε α) : Action ε α := do
  match f (← get) with
  | .ok a => return a
  | .error e => throw e

/-- Does something and answers how it went. -/
def attempt {ε ε' α : Type} (action : Action ε α) : Action ε' (Except ε α) :=
  ExceptT.lift action.run

/-- Sets a node and stamps the directory around it. -/
def place (location : Location) (node : Node) (disk : Disk) : Disk :=
  (disk.put location node).touchDirectory location.dropLast

/-! ## Directories -/

/-- Creates a directory whose parent exists. -/
def makeDirectory (p : Path) : Action IoFault Unit := do
  match ← query (·.destination p) with
  | .place _ => throw .alreadyExists
  | .entry directory name _ =>
    let location := directory ++ [name]
    if ((← get).node? location).isSome then throw .alreadyExists
    let time ← now
    modify (place location (.directory time))

/-- Creates the first path of a list, the next ones being its ancestors: those are created first
where they are missing. -/
def makeChain : List Path → Action IoFault Unit
  | [] => return
  | p :: ancestors => do
    match ← attempt (makeDirectory p) with
    | .ok () => return
    | .error .notFound =>
      makeChain ancestors
      match ← attempt (makeDirectory p) with
      | .ok () => return
      | .error fault => if (← get).isDirectory p then return else throw fault
    | .error fault => if (← get).isDirectory p then return else throw fault

/-- Creates a directory and whatever ancestors of it are missing; one that exists already is
fine. -/
def makeDirectories (p : Path) : Action IoFault Unit :=
  makeChain (p.ancestors.filter (·.spelling ≠ []))

/-! ## Files -/

/-- Writes a file in place, whose directory exists. -/
def write (p : Path) (content : ByteArray) : Action IoFault Unit := do
  match ← query (·.destination p) with
  | .place _ => throw .isADirectory
  | .entry directory name slashed =>
    let location := directory ++ [name]
    match (← get).node? location with
    | some (.directory _) => throw .isADirectory
    | some (.file ..) =>
      if slashed then throw .notADirectory
      let time ← now
      modify (put · location (.file content time))
    | none =>
      if slashed then throw .isADirectory
      let time ← now
      modify (place location (.file content time))

/-- A new file, complete but still without its name, written in a directory. -/
structure Draft where
  directory : Location
  content : ByteArray
  modified : Time

/-- Writes a draft in the directory that a path names. -/
def draft (directory : Path) (content : ByteArray) : Action IoFault Draft := do
  match ← query (·.destination (directory.join ⟨['d']⟩)) with
  | .place location => return ⟨location, content, ← now⟩
  | .entry location _ _ => return ⟨location, content, ← now⟩

/-- Gives a draft its name, in one step. What had that name before is gone, unless it is a
directory. -/
def publish (file : Draft) (p : Path) : Action IoFault Unit := do
  match ← query (·.destination p) with
  | .place _ => throw .isADirectory
  | .entry directory name slashed =>
    let location := directory ++ [name]
    if let some (.directory _) := (← get).node? location then throw .isADirectory
    if slashed then throw .notADirectory
    let _ ← now
    modify fun disk ↦ place location (.file file.content file.modified) disk

def setModified (p : Path) (time : Time) : Action IoFault Unit := do
  let destination ← query (·.destination p)
  let node ← query (·.nodeAt destination)
  modify (put · destination.location (node.withModified time))

/-- Removes a file, or a directory with everything in it. -/
def remove (p : Path) : Action IoFault Unit := do
  let destination ← query (·.destination p)
  let _ ← query (·.nodeAt destination)
  let _ ← now
  modify fun disk ↦ (disk.erase destination.location).touchDirectory destination.location.dropLast

end CompiledViews.Disk
