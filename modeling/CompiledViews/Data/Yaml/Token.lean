import CompiledViews.Data.Yaml.Scalar

/-!
# The tokens of a YAML document

Indentation becomes tokens of its own here: a block that is indented further opens, and one that is
left closes, so that nodes can be read without looking at columns. Whether a scalar is a key shows
only at the colon after it. Until then the place in front of it is kept as a candidate, and the key
is announced there, before tokens that were already made.
-/

namespace CompiledViews.Yaml

/-- How a scalar is spelled, as far as that matters for its value. -/
inductive Style
  | plain
  | quoted
  deriving DecidableEq

/-- A tag as it is written: a handle to be looked up, or none for one that is written in full, and
what follows it. -/
structure TagSpelling where
  handle : Option Text
  suffix : Text

inductive Token
  | streamEnd
  | version
  | tagHandle (handle uri : Text)
  | documentStart
  | documentEnd
  | blockSequenceStart
  | blockMappingStart
  | blockEnd
  | flowSequenceStart
  | flowSequenceEnd
  | flowMappingStart
  | flowMappingEnd
  | blockEntry
  | flowEntry
  | key
  | value
  | aliasName (name : Text)
  | anchor (name : Text)
  | tag (spelling : TagSpelling)
  | scalar (text : Text) (style : Style)

/-- A place at which a key may turn out to have begun. -/
structure KeyCandidate where
  /-- The number of tokens made before it. -/
  count : Nat
  index : Nat
  line : Nat
  column : Nat
  /-- Whether the block mapping around it goes on here, so that nothing but a key will do. -/
  required : Bool

/-- What has been made of a document so far. -/
structure Scan where
  cursor : Cursor
  /-- The tokens, the last one first. -/
  tokens : List Token := []
  count : Nat := 0
  /-- The columns of the open blocks, the innermost first. -/
  blocks : List Nat := []
  /-- The key candidates of the open brackets, the innermost first. -/
  brackets : List (Option KeyCandidate) := []
  /-- The key candidate outside of brackets. -/
  candidate : Option KeyCandidate := none
  /-- Whether a key may begin here. -/
  keyAllowed : Bool := true

namespace Scan

/-- Whether brackets are open, within which indentation does not count. -/
def inFlow (s : Scan) : Bool := !s.brackets.isEmpty

/-- Adds a token and goes on from `next`. -/
def push (s : Scan) (token : Token) (next : Cursor) : Scan :=
  { s with tokens := token :: s.tokens, count := s.count + 1, cursor := next }

/-- Adds a token in front of the last ones, after the first `count`. -/
def insertAt (s : Scan) (count : Nat) (token : Token) : Scan :=
  let later := s.count - count
  { s with tokens := s.tokens.take later ++ token :: s.tokens.drop later, count := s.count + 1 }

/-! ## Blocks -/

/-- Closes the blocks that are indented further than `column`; all of them without a column. -/
def closeBlocks (s : Scan) (column : Option Nat) : Scan :=
  if s.inFlow then s
  else
    let closed := s.blocks.takeWhile fun b ↦ column.all fun c ↦ decide (c < b)
    { s with
      blocks := s.blocks.drop closed.length
      tokens := closed.map (fun _ ↦ Token.blockEnd) ++ s.tokens
      count := s.count + closed.length }

/-- Opens a block at `column` if none is open there, its token after the first `count`. -/
def openBlock (s : Scan) (column count : Nat) (token : Token) : Scan :=
  if s.inFlow then s
  else if s.blocks.head?.all fun b ↦ decide (b < column) then
    { s.insertAt count token with blocks := column :: s.blocks }
  else s

/-! ## Key candidates -/

/-- The candidate of the innermost brackets, or that outside of them. -/
def current (s : Scan) : Option KeyCandidate :=
  match s.brackets with
  | [] => s.candidate
  | candidate :: _ => candidate

def setCurrent (s : Scan) (candidate : Option KeyCandidate) : Scan :=
  match s.brackets with
  | [] => { s with candidate }
  | _ :: rest => { s with brackets := candidate :: rest }

/-- Gives up the current candidate, which must not be one that is required. -/
def dropCandidate (s : Scan) : Option Scan :=
  if s.current.any (·.required) then none else some (s.setCurrent none)

/-- A key has to be on one line and to take no more bytes than this. -/
def keyLimit : Nat := 1024

/-- Whether a candidate can no longer be followed by its colon. -/
def isStale (s : Scan) (candidate : KeyCandidate) : Bool :=
  candidate.line < s.cursor.line || candidate.index + keyLimit < s.cursor.index

/-- Gives up all candidates that can no longer be followed by their colon. -/
def dropStale (s : Scan) : Option Scan :=
  let keep (candidate : Option KeyCandidate) := candidate.filter (!s.isStale ·)
  let lost (candidate : Option KeyCandidate) := candidate.any fun c ↦ s.isStale c && c.required
  if lost s.candidate || s.brackets.any lost then none
  else some { s with candidate := keep s.candidate, brackets := s.brackets.map keep }

/-- Makes this place a candidate, if a key may begin here. -/
def saveCandidate (s : Scan) : Option Scan :=
  if s.keyAllowed then do
    let required := !s.inFlow && s.blocks.head? == some s.cursor.column
    let s ← s.dropCandidate
    return s.setCurrent (some ⟨s.count, s.cursor.index, s.cursor.line, s.cursor.column, required⟩)
  else some s

/-! ## Blanks and comments -/

/-- Goes to the next token. A new line outside of brackets may begin with a key. -/
def skipBlanks : (fuel : Nat) → Scan → Scan
  | 0, s => s
  | fuel + 1, s =>
    let isSkipped (c : Char) := c == ' ' || ((s.inFlow || !s.keyAllowed) && c == '\t')
    let cursor := skipComment (s.cursor.skipWhile isSkipped)
    if cursor.rest.head?.any isBreak then
      let keyAllowed := s.keyAllowed || !s.inFlow
      skipBlanks fuel { s with cursor := cursor.takeBreak.2, keyAllowed }
    else { s with cursor }

/-! ## Directives -/

/-- Reads the rest of a line that may hold blanks and a comment only. -/
def lineEnd (cursor : Cursor) : Option Cursor :=
  let cursor := skipComment (cursor.skipWhile isBlank)
  if endsLine cursor.rest then some cursor.takeBreak.2 else none

/-- A character of a tag's address. -/
def isUriCharacter (verbatim : Bool) (c : Char) : Bool :=
  isNameCharacter c || ";/?:@&=+$.%!~*'()".toList.contains c ||
    (verbatim && (c == ',' || c == '[' || c == ']'))

/-- The number of bytes of a character in UTF-8 by its first one. -/
def characterWidth? (byte : Nat) : Option Nat :=
  if byte < 0x80 then some 1
  else if byte < 0xc0 then none
  else if byte < 0xe0 then some 2
  else if byte < 0xf0 then some 3
  else if byte < 0xf8 then some 4
  else none

/-- The text that an address stands for, in which the bytes of a character may be written as
hexadecimal numbers; so far there is a character of which `missing` bytes are to come, the others
being `code`. What is no character after all is replaced by the one that says so. -/
def uriText? (missing code : Nat) : Text → Option Text
  | [] => if missing = 0 then some [] else none
  | '%' :: a :: b :: rest => do
    let byte ← Json.hexNumber? [a, b]
    let (missing, code) ←
      if missing = 0 then do
        let width ← characterWidth? byte
        pure (width - 1, if width = 1 then byte else byte % twoTo (7 - width))
      else if byte / 0x40 = 2 then pure (missing - 1, code * 0x40 + byte % 0x40)
      else none
    let text ← uriText? missing code rest
    return if missing = 0 then (Json.character? code).getD '\ufffd' :: text else text
  | c :: rest => if missing = 0 ∧ c ≠ '%' then (uriText? 0 0 rest).map (c :: ·) else none

/-- Reads an address, which ends at a null character at the latest. -/
def uri? (verbatim : Bool) (cursor : Cursor) : Option (Text × Cursor) := do
  let (uri, after) := cursor.takeWhile (isUriCharacter verbatim)
  return ((← uriText? 0 0 uri).takeWhile (· != '\x00'), after)

/-- Reads a tag handle: `!`, `!!` or `!name!`. -/
def tagHandle (cursor : Cursor) : Option (Text × Cursor) :=
  match cursor.rest with
  | '!' :: _ =>
    let (name, after) := (cursor.skip 1).takeWhile isNameCharacter
    if after.rest.head? = some '!' then some ('!' :: name ++ ['!'], after.skip 1)
    else some ('!' :: name, after)
  | _ => none

/-- Reads a number of at most nine digits. -/
def versionNumber? (cursor : Cursor) : Option (Nat × Cursor) :=
  let (digits, after) := cursor.takeWhile Char.isDigit
  if digits.isEmpty || 9 < digits.length then none
  else some (digits.foldl (fun n c ↦ n * 10 + (c.toNat - '0'.toNat)) 0, after)

/-- Reads a version of the language: 1.1 or 1.2. -/
def version? (cursor : Cursor) : Option Cursor := do
  let (major, cursor) ← versionNumber? cursor
  if cursor.rest.head? ≠ some '.' then none
  let (minor, cursor) ← versionNumber? (cursor.skip 1)
  if major = 1 ∧ (minor = 1 ∨ minor = 2) then some cursor else none

/-- Reads a directive: the version of the language, or a handle for tags. -/
def directive (s : Scan) : Option Scan := do
  let s ← (s.closeBlocks none).dropCandidate
  let s := { s with keyAllowed := false }
  let (name, cursor) := (s.cursor.skip 1).takeWhile isNameCharacter
  if !endsWord cursor.rest then none
  let cursor := cursor.skipWhile isBlank
  if name = "YAML".toList then
    return s.push .version (← lineEnd (← version? cursor))
  else if name = "TAG".toList then
    let (handle, cursor) ← tagHandle cursor
    if handle ≠ ['!'] ∧ handle.getLast? ≠ some '!' then none
    if !cursor.rest.head?.any isBlank then none
    let start := cursor.skipWhile isBlank
    let (uri, cursor) ← uri? true start
    if cursor.index = start.index || !endsWord cursor.rest then none
    return s.push (.tagHandle handle uri) (← lineEnd cursor)
  else none

/-! ## Properties of nodes -/

def anchorName (cursor : Cursor) : Option (Text × Cursor) :=
  let (name, after) := (cursor.skip 1).takeWhile isNameCharacter
  let enders := "?:,]\x7d%@".toList ++ [Char.ofNat 96]
  let ends := endsWord after.rest || after.rest.head?.any enders.contains
  if name.isEmpty || !ends then none else some (name, after)

def tagSpelling (inFlow : Bool) (cursor : Cursor) : Option (TagSpelling × Cursor) := do
  let (spelling, after) ← match cursor.rest with
    | '!' :: '<' :: _ =>
      let (uri, after) ← uri? true (cursor.skip 2)
      if after.index = cursor.index + 2 || after.rest.head? != some '>' then none
      else some (⟨none, uri⟩, after.skip 1)
    | _ => do
      let (handle, start) ← tagHandle cursor
      let (more, after) ← uri? false start
      if 1 < handle.length ∧ handle.getLast? = some '!' then
        if after.index = start.index then none else return (⟨some handle, more⟩, after)
      else return (⟨some ['!'], handle.drop 1 ++ more⟩, after)
  if endsWord after.rest || (inFlow && after.rest.head? == some ',') then
    return (spelling, after)
  else none

/-! ## Tokens one by one -/

/-- A token that ends whatever block or key is open: a marker between documents. -/
def marker (s : Scan) (token : Token) : Option Scan := do
  let s ← (s.closeBlocks none).dropCandidate
  return { s.push token (s.cursor.skip 3) with keyAllowed := false }

def openBracket (s : Scan) (token : Token) : Option Scan := do
  let s ← s.saveCandidate
  return { s.push token (s.cursor.skip 1) with brackets := none :: s.brackets, keyAllowed := true }

def closeBracket (s : Scan) (token : Token) : Option Scan := do
  let s ← s.dropCandidate
  return { s.push token (s.cursor.skip 1) with brackets := s.brackets.drop 1, keyAllowed := false }

/-- The dash before an entry of a block sequence. -/
def blockEntry (s : Scan) : Option Scan := do
  if !s.inFlow && !s.keyAllowed then none
  let s ← (s.openBlock s.cursor.column s.count .blockSequenceStart).dropCandidate
  return { s.push .blockEntry (s.cursor.skip 1) with keyAllowed := true }

/-- The question mark before a key. -/
def explicitKey (s : Scan) : Option Scan := do
  if !s.inFlow && !s.keyAllowed then none
  let s ← (s.openBlock s.cursor.column s.count .blockMappingStart).dropCandidate
  return { s.push .key (s.cursor.skip 1) with keyAllowed := !s.inFlow }

/-- The colon after a key. A candidate turns out to be one, and opens a block where it began. -/
def colon (s : Scan) : Option Scan :=
  match s.current with
  | some candidate =>
    let s := (s.insertAt candidate.count .key).openBlock candidate.column candidate.count
      .blockMappingStart
    some { (s.setCurrent none).push .value (s.cursor.skip 1) with keyAllowed := false }
  | none =>
    if !s.inFlow && !s.keyAllowed then none
    else
      let s := s.openBlock s.cursor.column s.count .blockMappingStart
      some { s.push .value (s.cursor.skip 1) with keyAllowed := !s.inFlow }

def plainScalar (s : Scan) : Option Scan := do
  let s ← s.saveCandidate
  let indent := match s.blocks with
    | [] => 0
    | column :: _ => column + 1
  let read ← readPlain s.inFlow indent s.cursor
  return { s.push (.scalar read.text .plain) read.next with keyAllowed := read.brokeLine }

/-- Whether plain text may begin so. -/
def startsPlain (inFlow : Bool) (c : Char) (rest : Text) : Bool :=
  let isIndicator := ("-?:,[]\x7b\x7d#&*!|>'\"%@".toList ++ [Char.ofNat 96]).contains c
  (!isBlank c && !isIndicator) || (c == '-' && !rest.head?.any isBlank) ||
    (!inFlow && (c == '?' || c == ':') && !endsWord rest)

/-- Reads the token that begins with `c`. -/
def token (s : Scan) (c : Char) (rest : Text) : Option Scan :=
  if s.cursor.column = 0 ∧ c = '%' then s.directive
  else if s.cursor.column = 0 ∧ hasMarker '-' s.cursor.rest then s.marker .documentStart
  else if s.cursor.column = 0 ∧ hasMarker '.' s.cursor.rest then s.marker .documentEnd
  else if c = '[' then s.openBracket .flowSequenceStart
  else if c = '\x7b' then s.openBracket .flowMappingStart
  else if c = ']' then s.closeBracket .flowSequenceEnd
  else if c = '\x7d' then s.closeBracket .flowMappingEnd
  else if c = ',' then do
    let s ← s.dropCandidate
    return { s.push .flowEntry (s.cursor.skip 1) with keyAllowed := true }
  else if c = '-' ∧ endsWord rest then s.blockEntry
  else if c = '?' ∧ (s.inFlow ∨ endsWord rest) then s.explicitKey
  else if c = ':' ∧ (s.inFlow ∨ endsWord rest) then s.colon
  else if c = '*' ∨ c = '&' then do
    let s ← s.saveCandidate
    let (name, next) ← anchorName s.cursor
    let token := if c = '*' then .aliasName name else .anchor name
    return { s.push token next with keyAllowed := false }
  else if c = '!' then do
    let s ← s.saveCandidate
    let (spelling, next) ← tagSpelling s.inFlow s.cursor
    return { s.push (.tag spelling) next with keyAllowed := false }
  else if !s.inFlow ∧ (c = '|' ∨ c = '>') then do
    let s ← s.dropCandidate
    let (text, next) ← readBlock s.blocks.head? s.cursor
    return { s.push (.scalar text .quoted) next with keyAllowed := true }
  else if c = '\'' ∨ c = '"' then do
    let s ← s.saveCandidate
    let (text, next) ← readQuoted s.cursor
    return { s.push (.scalar text .quoted) next with keyAllowed := false }
  else if startsPlain s.inFlow c rest then s.plainScalar
  else none

/-- Makes tokens until the text is used up. -/
def run : (fuel : Nat) → Scan → Option (List Token)
  | 0, _ => none
  | fuel + 1, s => do
    let s ← (s.skipBlanks (s.cursor.rest.length + 1)).dropStale
    let s := s.closeBlocks (some s.cursor.column)
    match s.cursor.rest with
    | [] =>
      let s ← (s.closeBlocks none).dropCandidate
      return (Token.streamEnd :: s.tokens).reverse
    | c :: rest => run fuel (← s.token c rest)

end Scan

/-- A character that a document may contain. -/
def isAllowed (c : Char) : Bool :=
  let n := c.toNat
  n == 9 || n == 10 || n == 13 || (32 ≤ n && n ≤ 126) || n == 0x85 ||
    (0xa0 ≤ n && n ≤ 0xfffd) || 0x10000 ≤ n

/-- The tokens of a document, which may begin with a byte order mark. A second one is passed over as
a character of the first line. -/
def tokens? (document : Text) : Option (List Token) :=
  let start : Cursor := match document with
    | '\ufeff' :: '\ufeff' :: rest => { rest, index := 3, column := 1 }
    | '\ufeff' :: rest => { rest }
    | _ => { rest := document }
  if start.rest.all isAllowed then Scan.run (start.rest.length + 1) { cursor := start } else none

end CompiledViews.Yaml
