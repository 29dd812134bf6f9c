import CompiledViews.CommandLine.Run

/-!
# The program

Takes what a command may look at off the file system, runs the command on that, and puts what the
command has changed back. Everything else is decided elsewhere.
-/

namespace CompiledViews.Program

/-- How deep directories are looked into. -/
def depthLimit : Nat := 64

/-- The location of a path, from the root. -/
def locationOf (p : Path) : Location := p.segments.filter fun s ↦ s ≠ [] && s ≠ ['.']

/-- The spelling of a location. -/
def spell (location : Location) : String := (Settings.pathOf location).toString

/-- Nanoseconds since the beginning of 1970. -/
def time (t : IO.FS.SystemTime) : Time := t.sec.toNat * 1000000000 + t.nsec.toNat

/-- What is at a location, and below it down to the given depth. -/
def readTree : (depth : Nat) → Location → IO (List (Location × Node))
  | 0, _ => return []
  | depth + 1, location => do
    try
      let place ← IO.FS.realPath (spell location)
      let metadata ← place.metadata
      let modified := time metadata.modified
      match metadata.type with
      | .file => return [(location, .file (← IO.FS.readBinFile place) modified)]
      | .dir =>
        let entries ← place.readDir
        let below ← entries.toList.mapM fun entry ↦
          readTree depth (location ++ [entry.fileName.toList])
        return (location, .directory modified) :: below.flatten
      | _ => return []
    catch _ => return []

/-- The directories around a location, without what else is in them. -/
def around (location : Location) : IO (List (Location × Node)) :=
  (List.range location.length).tail.flatMapM fun n ↦ do
    let nodes ← readTree 1 (location.take n)
    return nodes.take 1

/-- The disk with what is at some locations, below and around them. -/
def look (disk : Disk) (locations : List Location) : IO Disk :=
  locations.foldlM (fun disk location ↦ do
    let nodes := (← around location) ++ (← readTree depthLimit location)
    return nodes.foldl (fun disk (location, node) ↦ disk.put location node) disk) disk

def environment : IO Environment := do
  let content ← IO.FS.readBinFile "/proc/self/environ"
  let text := (String.fromUTF8? content).getD ""
  return (Text.splitAll '\x00' text.toList).filterMap (Text.splitOnce? '=')

/-- The moment in which the program began. -/
def beginning : IO Time := do
  return time (← (← IO.FS.realPath "/proc/self/environ").metadata).modified

/-- Where a command may look before its settings are known: at the directory it is run in, at
settings files above that, and at what its arguments name. -/
def firstLocations (here : Location) (arguments : List Text) : List Location :=
  let named (p : Path) := locationOf (p.absolute (Settings.pathOf here))
  [here] ++ (List.range here.length).map (fun n ↦ here.take n ++ [Settings.fileName]) ++
    (arguments.filter (·.contains '/')).map fun t ↦ named ⟨t⟩

/-- Where a command may look besides, once its settings are known. -/
def furtherLocations (settings : Settings) : List Location :=
  let d := settings.directories
  ([d.root, d.views, d.outputs] ++ settings.controllers.map (·.data)).map locationOf

/-- The disk that a command runs on. -/
def prepare (environment : Environment) (arguments : List Text) : IO Disk := do
  let here := locationOf ⟨(← IO.FS.realPath ".").toString.toList⟩
  let disk ← look ⟨[], ← beginning, here⟩ (firstLocations here arguments)
  match CommandLine.read environment arguments with
  | .error _ => return disk
  | .ok command =>
    let settings := (CommandLine.settingsFor environment command).run.run ⟨[], []⟩ disk
    match settings.1.1 with
    | .error _ => return disk
    | .ok settings => look disk (furtherLocations settings)

/-- Puts back what is not as it was: every change has its time. -/
def putBack (before after : Disk) : IO Unit :=
  after.nodes.forM fun (location, node) ↦ do
    if (before.node? location).map Node.modified ≠ some node.modified then
      match node with
      | .directory _ => IO.FS.createDirAll (spell location)
      | .file content _ => IO.FS.writeBinFile (spell location) content

end CompiledViews.Program

open CompiledViews in
/-- Runs the command that the arguments make up. -/
def main (arguments : List String) : IO UInt32 := do
  let arguments := arguments.map String.toList
  let environment ← Program.environment
  let disk ← Program.prepare environment arguments
  let (outcome, after) := (CommandLine.run environment arguments).run disk
  Program.putBack disk after
  (← IO.getStdout).putStr (String.ofList outcome.stdout)
  (← IO.getStderr).putStr (String.ofList outcome.stderr)
  return outcome.code.toUInt32
