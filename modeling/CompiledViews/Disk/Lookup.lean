import CompiledViews.Data.Entries
import CompiledViews.Disk.Basic

/-!
# Following a path on the disk

A path is followed segment by segment, as POSIX has it. Every segment but the last has to lead into
a directory that exists, `..` included: `missing/../a` is not `a`. What the last name stands for is
up to the operation, which may want to create it.
-/

namespace CompiledViews

/-- Where a path leads. -/
inductive Destination
  /-- A directory that was reached without a name: `/`, or a path that ends in `.` or `..`. -/
  | place (location : Location)
  /-- A name, taken or not, in a directory that exists. A slash after the name asks for a
  directory. -/
  | entry (directory : Location) (name : Text) (slashed : Bool)
  deriving DecidableEq

def Destination.location : Destination → Location
  | place location => location
  | entry directory name _ => directory ++ [name]

namespace Disk

/-- The number of bytes that a segment of a path may have. -/
def segmentLimit : Nat := 255

/-- The number of bytes that a path may have. -/
def pathLimit : Nat := 4095

/-- Follows segments from a directory. None of them is empty. -/
def follow (disk : Disk) (slashed : Bool) : Location → List Text → Except IoFault Destination
  | location, [] => .ok (.place location)
  | location, name :: rest =>
    if name = ['.'] then follow disk slashed location rest
    else if name = ['.', '.'] then follow disk slashed location.dropLast rest
    else if segmentLimit < name.utf8Length then .error .invalidFilename
    else if rest = [] then .ok (.entry location name slashed)
    else match disk.node? (location ++ [name]) with
      | none => .error .notFound
      | some (.file ..) => .error .notADirectory
      | some (.directory _) => follow disk slashed (location ++ [name]) rest

def destination (disk : Disk) (p : Path) : Except IoFault Destination :=
  if p.spelling.contains '\x00' then .error .invalidInput
  else if p.spelling = [] then .error .notFound
  else if pathLimit < Text.utf8Length p.spelling then .error .invalidFilename
  else
    let names := p.segments.filter (· ≠ [])
    let slashed := p.spelling.getLast? = some '/'
    follow disk slashed (if p.isAbsolute then [] else disk.here) names

def nodeAt (disk : Disk) (destination : Destination) : Except IoFault Node :=
  match destination, disk.node? destination.location with
  | _, none => .error .notFound
  | .entry _ _ true, some (.file ..) => .error .notADirectory
  | _, some node => .ok node

/-- What a path names. -/
def stat (disk : Disk) (p : Path) : Except IoFault Node :=
  (disk.destination p).bind disk.nodeAt

/-- When what a path names was last changed. -/
def modified (disk : Disk) (p : Path) : Except IoFault Time := (disk.stat p).map Node.modified

def isDirectory (disk : Disk) (p : Path) : Bool :=
  match disk.stat p with
  | .ok node => node.isDirectory
  | .error _ => false

def isFile (disk : Disk) (p : Path) : Bool :=
  match disk.stat p with
  | .ok node => !node.isDirectory
  | .error _ => false

/-- The bytes of the file that a path names. -/
def read (disk : Disk) (p : Path) : Except IoFault ByteArray :=
  match disk.stat p with
  | .ok (.file content _) => .ok content
  | .ok (.directory _) => .error .isADirectory
  | .error fault => .error fault

/-- Bytes as text, if they are UTF-8. -/
def decode (content : ByteArray) : Except IoFault Text :=
  match String.fromUTF8? content with
  | some s => .ok s.toList
  | none => .error .invalidData

/-- A text as bytes. -/
def encode (t : Text) : ByteArray := (String.ofList t).toUTF8

def readText (disk : Disk) (p : Path) : Except IoFault Text := (disk.read p).bind decode

/-- The paths of everything below a directory, in order; those of directories end in a slash. Below
anything else there is nothing. -/
def listing (disk : Disk) (p : Path) : List Text :=
  match disk.destination p with
  | .error _ => []
  | .ok destination =>
    let spelled (location : Location) : Text :=
      let names := location.drop destination.location.length
      let slash := if (disk.node? location).any Node.isDirectory then ['/'] else []
      (p.join ⟨Text.join ['/'] names⟩).spelling ++ slash
    ((disk.below destination.location).map spelled).mergeSort fun a b ↦ !Text.precedes b a

end Disk

end CompiledViews
