import CompiledViews.Text.Basic

/-!
# Paths

A path is kept as it was spelled, and shown so. What it means is its components: repeated slashes,
a slash at the end and inner `.` segments do not count, while `..` is a component of its own that
only the disk can follow. Two paths may be spelled differently and have the same components.

Names of files are made of bytes and need not be text, so everything here works for any symbols
among which there are a slash and a dot.
-/

namespace CompiledViews

/-- Symbols that paths can be made of. -/
class PathSymbol (α : Type) where
  /-- The symbol between segments. -/
  slash : α
  /-- The symbol that `.` and `..` are made of and that precedes an extension. -/
  dot : α

instance : PathSymbol Char where
  slash := '/'
  dot := '.'

instance : PathSymbol UInt8 where
  slash := 47
  dot := 46

/-- A path as it is spelled. -/
structure Path (α : Type := Char) where
  spelling : List α
  deriving DecidableEq, Inhabited

/-- What a path has one or more of between its slashes. -/
inductive Component (α : Type := Char)
  /-- The slash at the start of an absolute path. -/
  | root
  /-- A leading `.`. -/
  | here
  /-- A `..`. -/
  | up
  /-- A name. -/
  | normal (name : List α)
  deriving DecidableEq

/-- The name that a component is spelled with; none where no name is needed. -/
def Component.name? {α : Type} [PathSymbol α] : Component α → Option (List α)
  | .root => none
  | .here => none
  | .up => some [PathSymbol.dot, PathSymbol.dot]
  | .normal name => some name

namespace Path

def ofString (s : String) : Path := ⟨s.toList⟩

def toString (p : Path) : String := String.ofList p.spelling

variable {α : Type} [DecidableEq α] [PathSymbol α]

open PathSymbol

/-! ## Components -/

/-- Whether the path starts at the root. -/
def isAbsolute (p : Path α) : Bool := p.spelling.head? == some slash

/-- The spelling after the slash that makes a path absolute. -/
def body (p : Path α) : List α := if p.isAbsolute then p.spelling.tail else p.spelling

/-- The parts of the body between its slashes, empty ones included. -/
def segments (p : Path α) : List (List α) := Text.splitAll slash p.body

/-- The component that a segment stands for; `leading` if nothing at all comes before it. -/
def component? (leading : Bool) (segment : List α) : Option (Component α) :=
  if segment = [] then none
  else if segment = [dot] then if leading then some .here else none
  else if segment = [dot, dot] then some .up
  else some (.normal segment)

/-- The segments, each with its component if it counts. -/
def markedSegments (p : Path α) : List (List α × Option (Component α)) :=
  match p.segments with
  | [] => []
  | first :: rest =>
    (first, component? (!p.isAbsolute) first) :: rest.map fun s ↦ (s, component? false s)

def components (p : Path α) : List (Component α) :=
  (if p.isAbsolute then [.root] else []) ++ p.markedSegments.filterMap (·.2)

def isSame (p q : Path α) : Bool := p.components == q.components

/-- Whether the components of `base` are the first ones of `p`. -/
def startsWith (p base : Path α) : Bool := base.components.isPrefixOf p.components

/-! ## Parts of a path -/

/-- The last component, if it is a name. -/
def fileName? (p : Path α) : Option (List α) :=
  match p.components.getLast? with
  | some (.normal name) => some name
  | _ => none

/-- A name cut at its last dot. A name without a dot, or with its only dot in front, is all stem. -/
def splitExtension (name : List α) : List α × Option (List α) :=
  let extension := (name.reverse.takeWhile (· != dot)).reverse
  match (name.reverse.dropWhile (· != dot)).reverse.dropLast with
  | [] => (name, none)
  | stem => (stem, some extension)

/-- The last name without its last extension. -/
def stem? (p : Path α) : Option (List α) := p.fileName?.map fun name ↦ (splitExtension name).1

def extension? (p : Path α) : Option (List α) := p.fileName?.bind fun name ↦ (splitExtension name).2

/-- The path without its last component and without what does not count before it; none if the path
has no component to leave out, or only the root. -/
def parent? (p : Path α) : Option (Path α) :=
  match p.markedSegments.reverse.dropWhile (·.2.isNone) with
  | [] => none
  | _ :: before =>
    let kept := (before.dropWhile (·.2.isNone)).reverse.map (·.1)
    some ⟨(if p.isAbsolute then [slash] else []) ++ Text.join [slash] kept⟩

/-- The path and all paths that leaving out components one by one makes of it; `fuel` bounds their
number. -/
def ancestorsFrom : (fuel : Nat) → Path α → List (Path α)
  | 0, p => [p]
  | fuel + 1, p =>
    match p.parent? with
    | some parent => p :: ancestorsFrom fuel parent
    | none => [p]

/-- The path, its parent, the parent of that, and so on. -/
def ancestors (p : Path α) : List (Path α) := ancestorsFrom p.spelling.length p

/-! ## Joining -/

/-- The path `p` seen from `base`: an absolute path replaces it, any other is appended. -/
def join (base p : Path α) : Path α :=
  if p.isAbsolute then p
  else if base.spelling = [] ∨ base.spelling.getLast? = some slash then
    ⟨base.spelling ++ p.spelling⟩
  else ⟨base.spelling ++ slash :: p.spelling⟩

/-- The path as seen from the directory `here`, component by component: a `..` stays, and so do a
slash at the end, which asks for a directory, and two slashes at the start, which systems may take
to mean something else than one. -/
def absolute (p here : Path α) : Path α :=
  let isDoubled := p.spelling.take 2 = [slash, slash] ∧ p.spelling[2]? ≠ some slash
  let start := if p.isAbsolute then ⟨if isDoubled then [slash, slash] else [slash]⟩ else here
  let names := p.components.filterMap Component.name?
  let path := names.foldl (fun base name ↦ base.join ⟨name⟩) start
  if p.spelling.getLast? = some slash then path.join ⟨[]⟩ else path

end Path

end CompiledViews
