import CompiledViews.Data.Json
import CompiledViews.Template.Fault
import CompiledViews.Text.Property

/-!
# The tokens of a template

Outside of markers a template is text. The markers `{{ … }}` enclose an output and `{% … %}` a
statement; `{# … #}` is a comment. A `-` inside a marker removes the blanks on its other side.

What cannot be read becomes a last, faulty token. So a reader of the tokens that finds something
wrong before it reports that instead: of two faults the first one counts.
-/

namespace CompiledViews.Template

inductive Symbol
  | power | floorSlash | equal | notEqual | atLeast | atMost
  | plus | minus | times | slash | modulo | tilde | less | greater
  | assign | bar | dot | comma | colon
  | openParen | closeParen | openBracket | closeBracket | openBrace | closeBrace
  deriving DecidableEq

/-- The spellings of the symbols, those of two characters first. -/
def Symbol.spellings : List (Text × Symbol) := [
  (['*', '*'], power), (['/', '/'], floorSlash), (['=', '='], equal), (['!', '='], notEqual),
  (['>', '='], atLeast), (['<', '='], atMost), (['+'], plus), (['-'], minus), (['*'], times),
  (['/'], slash), (['%'], modulo), (['~'], tilde), (['<'], less), (['>'], greater),
  (['='], assign), (['|'], bar), (['.'], dot), ([','], comma), ([':'], colon),
  (['('], openParen), ([')'], closeParen), (['['], openBracket), ([']'], closeBracket),
  (['\x7b'], openBrace), (['\x7d'], closeBrace)]

inductive Token
  /-- Text outside of markers. -/
  | page (t : Text)
  | outputStart
  | outputEnd
  | blockStart
  | blockEnd
  | name (t : Text)
  | string (t : Text)
  | int (n : Nat)
  | double (d : Double)
  | symbol (s : Symbol)
  /-- What follows cannot be read. -/
  | faulty (kind : FaultKind)
  deriving DecidableEq

/-! ## Strings -/

/-- Cuts a text before the first quote that no backslash precedes. -/
def splitAtQuote (quote : Char) : Text → Option (Text × Text)
  | [] => none
  | '\\' :: c :: rest => (splitAtQuote quote rest).map (.map ('\\' :: c :: ·) id)
  | c :: rest =>
    if c = quote then some ([], rest) else (splitAtQuote quote rest).map (.map (c :: ·) id)

/-- What a string is made of: characters, and the halves of those beyond sixteen bits. -/
inductive StringUnit
  | char (c : Char)
  | half (n : Nat)

/-- The unit with this number, if there is one. -/
def StringUnit.ofNat? (n : Nat) : Option StringUnit :=
  if 0xD800 ≤ n ∧ n ≤ 0xDFFF then some (.half n) else (Json.character? n).map .char

/-- The text that units make up; every first half is followed by a second one. -/
def joinUnits : List StringUnit → Option Text
  | [] => some []
  | .char c :: rest => (joinUnits rest).map (c :: ·)
  | .half high :: .half low :: rest => do
    if high < 0xDC00 ∧ 0xDC00 ≤ low then
      let c ← Json.character? (0x10000 + (high - 0xD800) * 0x400 + (low - 0xDC00))
      (joinUnits rest).map (c :: ·)
    else none
  | .half _ :: _ => none

/-- A digit to the base eight. -/
def isOctal (c : Char) : Bool := '0' ≤ c && c ≤ '7'

/-- The number that hexadecimal digits write, maybe after a plus sign. -/
def hexadecimal? : Text → Option Nat
  | [] => none
  | '+' :: c :: rest => Json.hexNumber? (c :: rest)
  | digits => Json.hexNumber? digits

/-- Reads the unit that a number of hexadecimal digits stands for. -/
def hexUnit? (places : Nat) (t : Text) : Option (List StringUnit × Text) := do
  if t.length < places then none
  let unit ← StringUnit.ofNat? (← hexadecimal? (t.take places))
  return ([unit], t.drop places)

/-- Reads what follows a backslash: the number of a character, a letter that stands for one, or
anything else, before which the backslash stands for itself. -/
def escape? : Text → Option (List StringUnit × Text)
  | [] => none
  | 'u' :: rest => hexUnit? 4 rest
  | 'x' :: rest => hexUnit? 2 rest
  | '\'' :: rest => some ([.char '\''], rest)
  | c :: rest =>
    if isOctal c then do
      let digits := ((c :: rest).take 3).takeWhile isOctal
      let n := digits.foldl (fun n c ↦ n * 8 + (c.toNat - '0'.toNat)) 0
      if 255 < n then none
      return ([← StringUnit.ofNat? n], (c :: rest).drop digits.length)
    else match Json.shortEscape? c with
      | some d => some ([.char d], rest)
      | none => some ([.char '\\', .char c], rest)

/-- The units of the inside of a string. Every step reads at least one character. -/
def units? : (fuel : Nat) → Text → Option (List StringUnit)
  | 0, _ => some []
  | _ + 1, [] => some []
  | fuel + 1, '\\' :: rest => do
    let (read, rest) ← escape? rest
    return read ++ (← units? fuel rest)
  | fuel + 1, c :: rest => (units? fuel rest).map (.char c :: ·)

/-- The text that the inside of a string stands for. -/
def unescape (t : Text) : Option Text := do joinUnits (← units? t.length t)

/-- Reads a string after its opening quote. -/
def readString (quote : Char) (t : Text) : Token × Text :=
  match splitAtQuote quote t with
  | none => (.faulty .syntaxError, [])
  | some (inside, rest) =>
    match unescape inside with
    | some t => (.string t, rest)
    | none => (.faulty .badEscape, [])

/-! ## Numbers -/

/-- The greatest integer that can be written. -/
def greatestInt : Nat := twoTo 128 - 1

/-- The number written by digits in a base, at least one of them. -/
def numeral? (base : Nat) (digits : Text) : Option Nat := do
  if digits = [] then none
  digits.foldl (fun n c ↦ do
    let d ← Json.hexValue? c
    if d < base then return (← n) * base + d else none) (some 0)

/-- The base that the beginning of a number names. -/
def base? : Text → Option Nat
  | '0' :: c :: _ =>
    match c.toLower with
    | 'b' => some 2
    | 'o' => some 8
    | 'x' => some 16
    | _ => none
  | _ => none

/-- The token for the digits of an integer, which may be grouped by underscores. -/
def integerToken (base : Nat) (digits : Text) : Token :=
  if digits.getLast? = some '_' then .faulty .syntaxError
  else match numeral? base (digits.filter (· != '_')) with
    | some n => if n ≤ greatestInt then .int n else .faulty .syntaxError
    | none => .faulty .syntaxError

/-- A digit or an underscore between digits. -/
def isDigitOrGap (c : Char) : Bool := c.isDigit || c == '_'

/-- Cuts the exponent off a number, if it goes on with one: its sign and digits, and what
follows. -/
def exponentPart? : Text → Option (Text × Text)
  | [] => none
  | c :: rest =>
    if c.toLower = 'e' then
      match rest.dropWhile (· == '_') with
      | '+' :: rest => some (rest.takeWhile isDigitOrGap, rest.dropWhile isDigitOrGap)
      | '-' :: rest => some ('-' :: rest.takeWhile isDigitOrGap, rest.dropWhile isDigitOrGap)
      | _ => some (rest.takeWhile isDigitOrGap, rest.dropWhile isDigitOrGap)
    else none

/-- The exponent that a text writes. -/
def exponent? : Text → Option Int
  | '-' :: digits => (numeral? 10 digits).map fun n ↦ -(n : Int)
  | digits => (numeral? 10 digits).map Int.ofNat

/-- The token for a number with a fraction, an exponent, or both. -/
def doubleToken (whole fraction exponent : Text) : Token :=
  let strip (t : Text) := t.filter (· != '_')
  let digits := (strip whole ++ strip fraction).foldl
    (fun n c ↦ n * 10 + (c.toNat - '0'.toNat)) 0
  let shift : Int := (strip fraction).length
  match exponent? (strip exponent) with
  | some e => .double (.nearestDecimal false digits (e - shift))
  | none => .faulty .syntaxError

/-- Whether the digits of an exponent come next. -/
def beginsExponent : Text → Bool
  | '+' :: c :: _ => c.isDigit
  | '-' :: c :: _ => c.isDigit
  | c :: _ => c.isDigit
  | [] => false

/-- Whether the text after a point is the name of an attribute and not the rest of a number. -/
def beginsAttribute : Text → Bool
  | [] => false
  | c :: rest => Text.isIdentifierStart c && !(c.toLower = 'e' && beginsExponent rest)

/-- Cuts the fraction off a number, if it goes on with one: its digits and what follows. -/
def fractionPart? : Text → Option (Text × Text)
  | '.' :: rest =>
    if beginsAttribute rest then none
    else some (rest.takeWhile isDigitOrGap, rest.dropWhile isDigitOrGap)
  | _ => none

/-- Reads a number to the base ten. -/
def readDecimal (t : Text) : Token × Text :=
  let whole := t.takeWhile isDigitOrGap
  let rest := t.dropWhile isDigitOrGap
  match fractionPart? rest, exponentPart? rest with
  | none, none => (integerToken 10 whole, rest)
  | none, some (exponent, rest) => (doubleToken whole [] exponent, rest)
  | some (fraction, rest), _ =>
    match exponentPart? rest with
    | none => (doubleToken whole fraction ['0'], rest)
    | some (exponent, rest) => (doubleToken whole fraction exponent, rest)

/-- Reads a number, whose first character is a digit. It does not end in an underscore. -/
def readNumber (t : Text) : Token × Text :=
  match base? t with
  | some base =>
    let isDigit (c : Char) := c == '_' || (Json.hexValue? c).any (· < base)
    (integerToken base ((t.drop 2).takeWhile isDigit), (t.drop 2).dropWhile isDigit)
  | none =>
    let (token, rest) := readDecimal t
    if (t.take (t.length - rest.length)).getLast? = some '_' then (.faulty .syntaxError, [])
    else (token, rest)

/-! ## Inside markers -/

/-- A blank character of ASCII. -/
def isSpace (c : Char) : Bool :=
  c == ' ' || c == '\t' || c == '\n' || c == '\r' || c == '\x0c'

def readSymbol (t : Text) : Token × Text :=
  match Symbol.spellings.find? fun entry ↦ entry.1.isPrefixOf t with
  | some (spelling, s) => (.symbol s, t.drop spelling.length)
  | none => (.faulty .syntaxError, [])

/-- Reads the token that a text begins with. -/
def readToken : Text → Token × Text
  | [] => (.faulty .syntaxError, [])
  | c :: rest =>
    if c = '"' ∨ c = '\'' then readString c rest
    else if c.isDigit then readNumber (c :: rest)
    else if Text.isIdentifierStart c then
      (.name (c :: rest.takeWhile Text.isIdentifierRest), rest.dropWhile Text.isIdentifierRest)
    else readSymbol (c :: rest)

/-! ## Outside of markers -/

/-- What a marker opens. -/
inductive Marker
  | output
  | block
  | comment

/-- The marker that opens with this character after a brace. -/
def marker? : Char → Option Marker
  | '\x7b' => some .output
  | '%' => some .block
  | '#' => some .comment
  | _ => none

/-- The text before the first marker; the marker and what follows it, if there is one. -/
def splitAtMarker : Text → Text × Option (Marker × Text)
  | [] => ([], none)
  | [c] => ([c], none)
  | c :: d :: rest =>
    match if c = '\x7b' then marker? d else none with
    | some marker => ([], some (marker, rest))
    | none => (splitAtMarker (d :: rest)).map (c :: ·) id

/-- The text before the first occurrence of `ending`, and what follows it. -/
def splitAtEnding? (ending : Text) : Text → Option (Text × Text)
  | [] => if ending = [] then some ([], []) else none
  | c :: rest =>
    match Text.dropBeginning? ending (c :: rest) with
    | some after => some ([], after)
    | none => (splitAtEnding? ending rest).map (.map (c :: ·) id)

/-- Takes a sign for the blanks beside a marker off a text: whether they are to be removed. -/
def blankSign : Text → Bool × Text
  | '-' :: rest => (true, rest)
  | '+' :: rest => (false, rest)
  | rest => (false, rest)

/-- Reads the rest of a statement that is one word: whether blanks after it are to be removed, and
what follows. -/
def wordStatement? (word : Text) (t : Text) : Option (Bool × Text) := do
  let (trim, rest) :=
    blankSign ((← Text.dropBeginning? word (t.dropWhile isSpace)).dropWhile isSpace)
  return (trim, ← Text.dropBeginning? ['%', '\x7d'] rest)

/-- Verbatim text up to its end statement. -/
structure Verbatim where
  text : Text
  /-- Whether blanks before the end statement are to be removed. -/
  trimBefore : Bool
  /-- Whether blanks after the end statement are to be removed. -/
  trimAfter : Bool
  rest : Text

/-- Reads verbatim text, if there is an end statement. -/
def verbatim? : Text → Option Verbatim
  | [] => none
  | c :: rest =>
    let ended? : Option Verbatim := do
      let inside ← Text.dropBeginning? ['\x7b', '%'] (c :: rest)
      let (trimBefore, inside) := blankSign inside
      let (trimAfter, rest) ← wordStatement? "endraw".toList inside
      return ⟨[], trimBefore, trimAfter, rest⟩
    match ended? with
    | some ended => some ended
    | none => (verbatim? rest).map fun v ↦ { v with text := c :: v.text }

/-! ## The whole template -/

/-- What the text that comes next belongs to. -/
inductive Region
  /-- No marker; whether blanks at the start are to be removed. -/
  | page (trim : Bool)
  /-- An output, in so many open braces. -/
  | output (braces : Nat)
  /-- A statement, in so many open braces. -/
  | block (braces : Nat)

/-- The token for text outside of markers, which is none for no text. -/
def pageToken (t : Text) : List Token := if t = [] then [] else [.page t]

/-- What is read first in a region: tokens, and the region and the text that come next. -/
structure Step where
  tokens : List Token
  next? : Option (Region × Text)

/-- Reads what a marker opens, from the sign for the blanks before it on. In a comment a single sign
may be the first and the last character, and then counts for both sides. -/
def stepMarker (marker : Marker) (t : Text) : Step :=
  let inside := (blankSign t).2
  match marker with
  | .output => ⟨[.outputStart], some (.output 0, inside)⟩
  | .comment =>
    match splitAtEnding? ['#', '\x7d'] t with
    | none => ⟨[.faulty .syntaxError], none⟩
    | some (written, rest) => ⟨[], some (.page (written.getLast? == some '-'), rest)⟩
  | .block =>
    match wordStatement? "raw".toList inside with
    | none => ⟨[.blockStart], some (.block 0, inside)⟩
    | some (trimStart, t) =>
      match verbatim? t with
      | none => ⟨[.faulty .syntaxError], none⟩
      | some v =>
        let text := if trimStart then Text.trimStart v.text else v.text
        let text := if v.trimBefore then Text.trimEnd text else text
        -- Verbatim text is a token even where nothing is left of it.
        ⟨[.page text], some (.page v.trimAfter, v.rest)⟩

/-- Reads text outside of markers and the marker after it. -/
def stepPage (t : Text) : Step :=
  match splitAtMarker t with
  | (lead, none) => ⟨pageToken lead, none⟩
  | (lead, some (marker, rest)) =>
    let lead := if (blankSign rest).1 then Text.trimEnd lead else lead
    let step := stepMarker marker rest
    { step with tokens := pageToken lead ++ step.tokens }

/-- The open braces after a token. -/
def bracesAfter (braces : Nat) : Token → Nat
  | .symbol .openBrace => braces + 1
  | .symbol .closeBrace => braces - 1
  | _ => braces

/-- The endings of a marker that closes with `close`, each with whether blanks after it are to be
removed. -/
def endings (close : Text) : List (Text × Bool) :=
  [('-' :: close, true), ('+' :: close, false), (close, false)]

/-- Reads a token inside a marker, unless the marker ends there, which it does not inside braces. -/
def stepInside (region : Nat → Region) (braces : Nat) (ending : Token) (close : Text) (t : Text) :
    Step :=
  match t.dropWhile isSpace with
  | [] => ⟨[], none⟩
  | c :: rest =>
    let ended? := if braces = 0 then (endings close).findSome? fun (spelling, trim) ↦
      (Text.dropBeginning? spelling (c :: rest)).map (trim, ·) else none
    match ended? with
    | some (trim, rest) => ⟨[ending], some (.page trim, rest)⟩
    | none =>
      match readToken (c :: rest) with
      | (.faulty kind, _) => ⟨[.faulty kind], none⟩
      | (token, rest) => ⟨[token], some (region (bracesAfter braces token), rest)⟩

/-- Reads what comes first in a region. -/
def step : Region → Text → Step
  | .page trim, t => stepPage (if trim then Text.trimStart t else t)
  | .output braces, t => stepInside .output braces .outputEnd ['\x7d', '\x7d'] t
  | .block braces, t => stepInside .block braces .blockEnd ['%', '\x7d'] t

/-- The tokens of a text in a region; `fuel` bounds the steps. -/
def tokensIn : (fuel : Nat) → Region → Text → List Token
  | 0, _, _ => []
  | fuel + 1, region, t =>
    let first := step region t
    match first.next? with
    | none => first.tokens
    | some (region, rest) => first.tokens ++ tokensIn fuel region rest

/-- A text without this character at its end. -/
def dropFinal (c : Char) (t : Text) : Text := (Text.dropEnding? [c] t).getD t

/-- A template without the line break at its very end, of which one half may be missing. -/
def dropFinalBreak (t : Text) : Text := dropFinal '\r' (dropFinal '\n' t)

/-- The tokens of a template. Every step but the last reads at least one character. -/
def tokens (t : Text) : List Token := tokensIn (t.length + 1) (.page false) (dropFinalBreak t)

end CompiledViews.Template
