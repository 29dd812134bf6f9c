import CompiledViews.Disk.Fault
import CompiledViews.Path

/-!
# The disk

A tree of files and directories, the clock that stamps changes, and the directory that relative
paths start from. The tree is a list of nodes by location, a location being the names that lead to
it from the root; so what an operation leaves alone can be said location by location.

The clock moves on whenever it is read, so two events never have the same time.
-/

namespace CompiledViews

/-- Nanoseconds since the beginning of 1970. -/
abbrev Time := Nat

/-- The names that lead from the root to a file or directory. -/
abbrev Location := List Text

/-- What a location holds. -/
inductive Node
  | file (content : ByteArray) (modified : Time)
  | directory (modified : Time)

namespace Node

def modified : Node → Time
  | file _ modified => modified
  | directory modified => modified

def isDirectory : Node → Bool
  | file .. => false
  | directory _ => true

/-- The node with another time of change. -/
def withModified (modified : Time) : Node → Node
  | file content _ => file content modified
  | directory _ => directory modified

end Node

/-- Files, clock and working directory. -/
structure Disk where
  /-- The nodes below the root; the first one of a location counts. -/
  nodes : List (Location × Node)
  /-- The time last read off the clock. -/
  clock : Time
  /-- Where relative paths start. -/
  here : Location

namespace Disk

/-- What a location holds. The root is always a directory. -/
def node? (disk : Disk) (location : Location) : Option Node :=
  if location = [] then some (.directory 0) else disk.nodes.lookup location

/-- A list of nodes with the one of a location set, in its place. -/
def setNode (location : Location) (node : Node) : List (Location × Node) → List (Location × Node)
  | [] => [(location, node)]
  | (l, n) :: rest =>
    if l = location then (location, node) :: rest else (l, n) :: setNode location node rest

def put (disk : Disk) (location : Location) (node : Node) : Disk :=
  { disk with nodes := setNode location node disk.nodes }

/-- The disk without a location and everything below it. -/
def erase (disk : Disk) (location : Location) : Disk :=
  { disk with nodes := disk.nodes.filter fun entry ↦ !location.isPrefixOf entry.1 }

/-- The disk after the clock has been read. -/
def tick (disk : Disk) : Disk := { disk with clock := disk.clock + 1 }

/-- A directory is stamped with the clock when an entry of it changes. -/
def touchDirectory (disk : Disk) (location : Location) : Disk :=
  match disk.node? location with
  | some (.directory _) => disk.put location (.directory disk.clock)
  | _ => disk

def below (disk : Disk) (location : Location) : List Location :=
  (disk.nodes.map (·.1)).filter fun l ↦ location.isPrefixOf l && l != location

/-! ## The view of a disk by location -/

theorem lookup_setNode (nodes : List (Location × Node)) (location other : Location)
    (node : Node) :
    (setNode location node nodes).lookup other =
      if other = location then some node else nodes.lookup other := by
  induction nodes with
  | nil =>
    by_cases h : other = location
    · simp [setNode, h]
    · simp [setNode, List.lookup_cons, h, beq_eq_false_iff_ne.mpr h]
  | cons entry rest ih =>
    obtain ⟨l, n⟩ := entry
    rw [setNode]
    split
    · next h =>
      subst h
      by_cases e : other = l
      · simp [e]
      · simp [List.lookup_cons, e, beq_eq_false_iff_ne.mpr e]
    · next h =>
      by_cases e : other = l
      · subst e
        simp [h]
      · simp [List.lookup_cons, beq_eq_false_iff_ne.mpr e, ih]

theorem node?_put (disk : Disk) (location other : Location) (node : Node) (h : location ≠ []) :
    (disk.put location node).node? other =
      if other = location then some node else disk.node? other := by
  by_cases e : other = []
  · subst e
    simp [node?, Ne.symm h]
  · simp [node?, put, lookup_setNode, e]

@[simp]
theorem node?_tick (disk : Disk) (location : Location) :
    disk.tick.node? location = disk.node? location := rfl

/-! ## Actions -/

/-- Something done with a disk that may fail; the disk is left as it then is. -/
abbrev Action (ε α : Type) := ExceptT ε (StateM Disk) α

/-- Reads the clock. -/
def now : StateM Disk Time := modifyGet fun disk ↦ (disk.tick.clock, disk.tick)

end Disk

end CompiledViews
