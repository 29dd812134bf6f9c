import CompiledViews.Data.Json
import CompiledViews.Data.Yaml.Cursor

/-!
# The spelling of scalars

A scalar may be spelled in five ways, each with its own rule for what line breaks within it mean.
Breaks are folded in all but the literal one: a single break becomes a space, and of several the
first one goes.

Reading a scalar answers its text and the place after it, or nothing if the spelling is wrong.
-/

namespace CompiledViews.Yaml

/-! ## Breaks within a scalar -/

/-- Blanks and breaks that were read and not yet added to a scalar. -/
structure Gap where
  /-- Blanks on the line that the text is on. -/
  blanks : Text := []
  /-- The first line break, if one was met. -/
  first : Option Text := none
  /-- Further line breaks. -/
  more : Text := []

/-- What a gap within folded text stands for. -/
def Gap.folded (gap : Gap) : Text :=
  match gap.first with
  | none => gap.blanks
  | some ['\n'] => if gap.more.isEmpty then [' '] else gap.more
  | some lineBreak => lineBreak ++ gap.more

/-- Reads blanks and breaks. Before the column `indent` a tab after a break is refused. -/
def readGap (indent : Nat) : (fuel : Nat) → Gap → Cursor → Option (Gap × Cursor)
  | 0, gap, cursor => some (gap, cursor)
  | fuel + 1, gap, cursor =>
    match cursor.rest with
    | [] => some (gap, cursor)
    | c :: _ =>
      if isBlank c then
        if gap.first.isNone then
          readGap indent fuel { gap with blanks := gap.blanks ++ [c] } (cursor.skip 1)
        else if cursor.column < indent ∧ c = '\t' then none
        else readGap indent fuel gap (cursor.skip 1)
      else if isBreak c then
        let (lineBreak, next) := cursor.takeBreak
        match gap.first with
        | none => readGap indent fuel { gap with first := some lineBreak } next
        | some _ => readGap indent fuel { gap with more := gap.more ++ lineBreak } next
      else some (gap, cursor)

/-! ## Plain scalars -/

/-- A character that ends plain text within brackets. -/
def isFlowIndicator (c : Char) : Bool :=
  c == ',' || c == '[' || c == ']' || c == '\x7b' || c == '\x7d'

/-- A run of plain text without blanks. Within brackets a colon may not come right before another
indicator. -/
def plainRun (inFlow : Bool) : Text → Option (Text × Text)
  | [] => some ([], [])
  | c :: rest =>
    if isBlank c || isBreak c then some ([], c :: rest)
    else if inFlow && c == ':' && rest.head?.any (fun d ↦ isFlowIndicator d || d == '?') then none
    else if c == ':' && endsWord rest then some ([], c :: rest)
    else if inFlow && isFlowIndicator c then some ([], c :: rest)
    else (plainRun inFlow rest).map (.map (c :: ·) id)

/-- A plain scalar as it was read. -/
structure PlainText where
  text : Text
  next : Cursor
  /-- Whether it was ended by a new line, so that a key may follow. -/
  brokeLine : Bool

/-- Reads on in a plain scalar whose further lines start at the column `indent` or beyond. -/
def plainFrom (inFlow : Bool) (indent : Nat) :
    (fuel : Nat) → (read : Text) → Gap → Cursor → Option PlainText
  | 0, read, gap, cursor => some ⟨read, cursor, gap.first.isSome⟩
  | fuel + 1, read, gap, cursor =>
    if cursor.atMarker ∨ cursor.rest.head? = some '#' then some ⟨read, cursor, gap.first.isSome⟩
    else do
      let (run, _) ← plainRun inFlow cursor.rest
      let read := if run.isEmpty then read else read ++ gap.folded ++ run
      let after := cursor.skip run.length
      let brokeLine := run.isEmpty && gap.first.isSome
      if after.atEnd || !(after.rest.head?.any fun c ↦ isBlank c || isBreak c) then
        return ⟨read, after, brokeLine⟩
      let (gap, next) ←
        readGap indent (after.rest.length + 1) (if run.isEmpty then gap else {}) after
      if !inFlow && next.column < indent then return ⟨read, next, gap.first.isSome⟩
      plainFrom inFlow indent fuel read gap next

def readPlain (inFlow : Bool) (indent : Nat) (cursor : Cursor) : Option PlainText :=
  plainFrom inFlow indent (cursor.rest.length + 1) [] {} cursor

/-! ## Quoted scalars -/

/-- What a backslash and a letter stand for. -/
def escapedCharacter? : Char → Option Char
  | '0' => some '\x00'
  | 'a' => some '\x07'
  | 'b' => some '\x08'
  | 't' => some '\t'
  | '\t' => some '\t'
  | 'n' => some '\n'
  | 'v' => some '\x0b'
  | 'f' => some '\x0c'
  | 'r' => some '\r'
  | 'e' => some '\x1b'
  | ' ' => some ' '
  | '"' => some '"'
  | '/' => some '/'
  | '\\' => some '\\'
  | 'N' => some '\x85'
  | '_' => some '\xa0'
  | 'L' => some '\u2028'
  | 'P' => some '\u2029'
  | _ => none

/-- The number of hexadecimal digits that such an escape goes on with. -/
def escapeWidth? : Char → Option Nat
  | 'x' => some 2
  | 'u' => some 4
  | 'U' => some 8
  | _ => none

/-- Reads an escape after its backslash: the character, and how many characters it takes. -/
def readEscape : Text → Option (Char × Nat)
  | [] => none
  | c :: rest =>
    match escapedCharacter? c with
    | some d => some (d, 1)
    | none => do
      let width ← escapeWidth? c
      if rest.length < width then none
      let code ← Json.hexNumber? (rest.take width)
      return (← Json.character? code, width + 1)

/-- A run of quoted text without blanks, as far as the closing quote, a blank or a break. The flag
says whether it ended in an escaped line break, which is then the next character. -/
def quotedRun (quote : Char) : (skip : Nat) → Text → Option (Text × Nat × Bool)
  | _, [] => some ([], 0, false)
  | skip + 1, _ :: rest => (quotedRun quote skip rest).map fun (t, n, b) ↦ (t, n + 1, b)
  | 0, c :: rest =>
    if isBlank c || isBreak c then some ([], 0, false)
    else if c = quote then
      if quote = '\'' ∧ rest.head? = some '\'' then
        (quotedRun quote 1 rest).map fun (t, n, b) ↦ ('\'' :: t, n + 1, b)
      else some ([], 0, false)
    else if quote = '"' ∧ c = '\\' then
      if rest.head?.any isBreak then some ([], 1, true)
      else do
        let (d, width) ← readEscape rest
        let (t, n, b) ← quotedRun quote width rest
        return (d :: t, n + 1, b)
    else (quotedRun quote 0 rest).map fun (t, n, b) ↦ (c :: t, n + 1, b)

/-- Reads on in a quoted scalar up to its closing quote. -/
def quotedFrom (quote : Char) : (fuel : Nat) → (read : Text) → Cursor → Option (Text × Cursor)
  | 0, _, _ => none
  | fuel + 1, read, cursor => do
    if cursor.atMarker ∨ cursor.atEnd then none
    let (run, length, escapedBreak) ← quotedRun quote 0 cursor.rest
    let read := read ++ run
    let after := cursor.skip length
    if !escapedBreak ∧ after.rest.head? = some quote then return (read, after.skip 1)
    let (gap, after) : Gap × Cursor :=
      if escapedBreak then ({ first := some [] }, after.takeBreak.2) else ({}, after)
    let (gap, next) ← readGap 0 (after.rest.length + 1) gap after
    quotedFrom quote fuel (read ++ gap.folded) next

def readQuoted (cursor : Cursor) : Option (Text × Cursor) := do
  let quote ← cursor.rest.head?
  quotedFrom quote (cursor.rest.length + 1) [] (cursor.skip 1)

/-! ## Block scalars -/

/-- What becomes of the line breaks at the end of a block scalar. -/
inductive Chomping
  | strip
  | clip
  | keep
  deriving DecidableEq

/-- The signs between a block scalar's indicator and its first line: how to chomp, and by how much
the text is indented if that is said. -/
def blockHeader (cursor : Cursor) : Option (Chomping × Option Nat × Cursor) :=
  let chomping? : Char → Option Chomping
    | '+' => some .keep
    | '-' => some .strip
    | _ => none
  let digit? (c : Char) : Option Nat := if c.isDigit then some (c.toNat - '0'.toNat) else none
  match cursor.rest with
  | a :: rest =>
    match chomping? a, digit? a with
    | some chomping, _ =>
      match rest.head?.bind digit? with
      | some 0 => none
      | some n => some (chomping, some n, cursor.skip 2)
      | none => some (chomping, none, cursor.skip 1)
    | none, some 0 => none
    | none, some n =>
      match rest.head?.bind chomping? with
      | some chomping => some (chomping, some n, cursor.skip 2)
      | none => some (.clip, some n, cursor.skip 1)
    | none, none => some (.clip, none, cursor)
  | [] => some (.clip, none, cursor)

/-- Goes past a comment, if one starts here. -/
def skipComment (cursor : Cursor) : Cursor :=
  if cursor.rest.head? = some '#' then cursor.skipWhile (!isBreak ·) else cursor

/-- Reads the indentation of a line and the empty lines before it. Without a known indentation the
deepest column that was reached is answered. A tab may not stand for indentation. -/
def blockBreaks (indent : Option Nat) :
    (fuel : Nat) → (deepest : Nat) → (breaks : Text) → Cursor → Option (Nat × Text × Cursor)
  | 0, deepest, breaks, cursor => some (deepest, breaks, cursor)
  | fuel + 1, deepest, breaks, cursor =>
    let spaces := (cursor.rest.takeWhile (· == ' ')).length
    let wanted := match indent with
      | some indent => min spaces (indent - cursor.column)
      | none => spaces
    let cursor := cursor.skip wanted
    let deepest := max deepest cursor.column
    let isOutside := indent.all fun indent ↦ decide (cursor.column < indent)
    if isOutside ∧ cursor.rest.head? = some '\t' then none
    else if cursor.rest.head?.any isBreak then
      let (lineBreak, next) := cursor.takeBreak
      blockBreaks indent fuel deepest (breaks ++ lineBreak) next
    else some (deepest, breaks, cursor)

/-- The lines read so far of a block scalar, and what is still to be decided. -/
structure Block where
  read : Text := []
  /-- The break after the last line. -/
  pending : Text := []
  /-- Whether the last line started with a blank. -/
  wasIndented : Bool := false

/-- Reads the lines of a block scalar, the first one starting here after `breaks`. -/
def blockLines (literal : Bool) (indent : Nat) :
    (fuel : Nat) → Block → (breaks : Text) → Cursor → Option (Block × Text × Cursor)
  | 0, block, breaks, cursor => some (block, breaks, cursor)
  | fuel + 1, block, breaks, cursor =>
    if cursor.column = indent ∧ !cursor.atEnd then do
      let isIndented := cursor.rest.head?.any isBlank
      let folds := !literal && block.pending == ['\n'] && !block.wasIndented && !isIndented
      let joint := if folds then (if breaks.isEmpty then [' '] else []) else block.pending
      let (line, after) := cursor.takeWhile (!isBreak ·)
      let (lineBreak, next) := after.takeBreak
      let read := block.read ++ joint ++ breaks ++ line
      let (_, breaks, next) ← blockBreaks (some indent) (next.rest.length + 1) 0 [] next
      blockLines literal indent fuel ⟨read, lineBreak, isIndented⟩ breaks next
    else some (block, breaks, cursor)

/-- Reads a block scalar whose parent is indented by `parent` columns, if there is one. -/
def readBlock (parent : Option Nat) (cursor : Cursor) : Option (Text × Cursor) := do
  let literal := cursor.rest.head? == some '|'
  let (chomping, increment, cursor) ← blockHeader (cursor.skip 1)
  let cursor := skipComment (cursor.skipWhile isBlank)
  if !endsLine cursor.rest then none
  let cursor := cursor.takeBreak.2
  let fuel := cursor.rest.length + 1
  let known := increment.map fun n ↦ parent.getD 0 + n
  let (deepest, breaks, cursor) ← blockBreaks known fuel 0 [] cursor
  let least := match parent with
    | some column => max 1 (column + 1)
    | none => 1
  let indent := known.getD (max deepest least)
  let (block, breaks, cursor) ← blockLines literal indent fuel {} breaks cursor
  let ending := match chomping with
    | .strip => []
    | .clip => block.pending
    | .keep => block.pending ++ breaks
  return (block.read ++ ending, cursor)

end CompiledViews.Yaml
