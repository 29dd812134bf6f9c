/-!
# Texts

A text is the list of its characters: scanning is structural recursion, and cutting a text in two
is `++` read backwards. Strings appear only where a message is put together.

Identifiers are those of ASCII: a letter or an underscore, then letters, digits and underscores.
-/

namespace CompiledViews

/-- A text, as the list of its characters. -/
abbrev Text := List Char

namespace Text

/-- A character that may begin an identifier. -/
def isIdentifierStart (c : Char) : Bool := c.isAlpha || c == '_'

/-- A character that may stand in an identifier. -/
def isIdentifierRest (c : Char) : Bool := c.isAlphanum || c == '_'

/-- Whether the whole text is one identifier. -/
def isIdentifier : Text → Bool
  | [] => false
  | c :: cs => isIdentifierStart c && cs.all isIdentifierRest

/-- Whether the text goes on with a character of an identifier. -/
def startsInIdentifier (t : Text) : Bool := t.head?.any isIdentifierRest

/-- The number of bytes the text takes in UTF-8. -/
def utf8Length (t : Text) : Nat := t.foldr (fun c n ↦ c.utf8Size + n) 0

/-- What is left of a text after the given beginning, if it begins so. -/
def dropBeginning? : (beginning : Text) → Text → Option Text
  | [], t => some t
  | _ :: _, [] => none
  | b :: bs, c :: cs => if b = c then dropBeginning? bs cs else none

/-- What is left of a text before the given ending, if it ends so. -/
def dropEnding? (ending t : Text) : Option Text :=
  (dropBeginning? ending.reverse t.reverse).map List.reverse

/-- The parts of a text before and after the first `c`. -/
def splitOnce? (c : Char) (t : Text) : Option (Text × Text) :=
  match t.dropWhile (· != c) with
  | [] => none
  | _ :: rest => some (t.takeWhile (· != c), rest)

/-- The parts of a list between its `c`s; always at least one. -/
def splitAll {α : Type} [DecidableEq α] (c : α) : List α → List (List α)
  | [] => [[]]
  | d :: ds =>
    if d = c then [] :: splitAll c ds
    else match splitAll c ds with
      | [] => [[d]]
      | part :: parts => (d :: part) :: parts

/-- The parts put one after the other with `separator` between them. -/
def join {α : Type} (separator : List α) : List (List α) → List α
  | [] => []
  | [part] => part
  | part :: parts => part ++ separator ++ join separator parts

/-- A text with every occurrence of the non-empty `old` replaced, the first ones first; `skip`
characters belong to an occurrence already replaced. -/
def replaceFrom (old new : Text) : (skip : Nat) → Text → Text
  | _, [] => []
  | skip + 1, _ :: cs => replaceFrom old new skip cs
  | 0, c :: cs =>
    if old.isPrefixOf (c :: cs) then new ++ replaceFrom old new (old.length - 1) cs
    else c :: replaceFrom old new 0 cs

/-- A text with every occurrence of the non-empty `old` replaced by `new`. -/
def replace (t old new : Text) : Text := replaceFrom old new 0 t

@[simp]
theorem splitAll_ne_nil {α : Type} [DecidableEq α] (c : α) (t : List α) :
    splitAll c t ≠ [] := by
  induction t with
  | nil => simp [splitAll]
  | cons d ds _ =>
    rw [splitAll]
    split
    · simp
    · split <;> simp

theorem dropBeginning?_eq_some_iff {beginning t rest : Text} :
    dropBeginning? beginning t = some rest ↔ t = beginning ++ rest := by
  induction beginning generalizing t with
  | nil => simp [dropBeginning?]
  | cons b bs ih =>
    cases t with
    | nil => simp [dropBeginning?]
    | cons c cs =>
      rw [dropBeginning?]
      split
      · next h => simp [h, ih]
      · next h => simp [Ne.symm h]

end Text

end CompiledViews
