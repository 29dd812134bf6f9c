import CompiledViews.Directive.Occurrence

/-!
# Reading argument lists

An expression whose parentheses and quotes are balanced is read as a whole: the reader of an
argument list passes over it without looking beyond, and stops at the parenthesis behind it.
-/

namespace CompiledViews.Directive

/-- What may stand between two quotes. A backslash takes the character behind it with it. -/
inductive StringBody (quote : Char) : Text → Prop
  | nil : StringBody quote []
  | char {c : Char} {rest : Text} (hc : c ≠ '\\') (hquote : c ≠ quote)
    (hrest : StringBody quote rest) : StringBody quote (c :: rest)
  | escape {c : Char} {rest : Text} (hrest : StringBody quote rest) :
    StringBody quote ('\\' :: c :: rest)

/-- A text in which every parenthesis outside of strings has its partner and every string ends. -/
inductive Balanced : Text → Prop
  | nil : Balanced []
  | char {c : Char} {rest : Text} (hc : c ∉ ['(', ')', '\'', '"']) (hrest : Balanced rest) :
    Balanced (c :: rest)
  | group {inner rest : Text} (hinner : Balanced inner) (hrest : Balanced rest) :
    Balanced ('(' :: (inner ++ ')' :: rest))
  | string {quote : Char} {body rest : Text} (hquote : quote = '\'' ∨ quote = '"')
    (hbody : StringBody quote body) (hrest : Balanced rest) :
    Balanced (quote :: (body ++ quote :: rest))

variable {body expr rest : Text} {depth : Nat}

/-! ## One character -/

theorem closing_char {c : Char} (hc : c ∉ ['(', ')', '\'', '"']) :
    closing depth .plain (c :: rest) = (closing depth .plain rest).map (.map (c :: ·) id) := by
  simp only [List.mem_cons, List.not_mem_nil, or_false, not_or] at hc
  cases depth <;> simp [closing, hc]

theorem closing_quote {quote : Char} (hquote : quote = '\'' ∨ quote = '"') :
    closing depth .plain (quote :: rest)
      = (closing depth (.quoted quote) rest).map (.map (quote :: ·) id) := by
  cases depth <;> rw [closing, if_pos hquote]

theorem closing_open : closing depth .plain ('(' :: rest)
    = (closing (depth + 1) .plain rest).map (.map ('(' :: ·) id) := by
  cases depth <;> rfl

theorem closing_close : closing (depth + 1) .plain (')' :: rest)
    = (closing depth .plain rest).map (.map (')' :: ·) id) := rfl

theorem closing_last : closing 0 .plain (')' :: rest) = some ([], rest) := rfl

/-! ## Balanced text -/

theorem closing_string {quote : Char} (h : StringBody quote body) (hquote : quote ≠ '\\')
    (depth : Nat) (rest : Text) :
    closing depth (.quoted quote) (body ++ quote :: rest) =
      (closing depth .plain rest).map (.map (body ++ quote :: ·) id) := by
  induction h with
  | nil =>
    rw [List.nil_append, closing, if_neg hquote, if_pos rfl]
    rfl
  | char hc hne _ ih =>
    rw [List.cons_append, closing, if_neg hc, if_neg hne, ih, Option.map_map]
    rfl
  | escape _ ih =>
    rw [List.cons_append, List.cons_append, closing, if_pos rfl, closing, ih, Option.map_map,
      Option.map_map]
    rfl

/-- Balanced text does not change what the reader finds behind it. -/
theorem closing_balanced (h : Balanced expr) (depth : Nat) (rest : Text) :
    closing depth .plain (expr ++ rest) =
      (closing depth .plain rest).map (.map (expr ++ ·) id) := by
  induction h generalizing depth rest with
  | nil => exact (congrFun Option.map_id _).symm
  | char hc _ ih =>
    rw [List.cons_append, closing_char hc, ih, Option.map_map]
    rfl
  | @group inner others _ _ ihinner ihrest =>
    have hgroup : ('(' :: (inner ++ ')' :: others)) ++ rest
        = '(' :: (inner ++ ')' :: (others ++ rest)) := by simp
    rw [hgroup, closing_open, ihinner, closing_close, ihrest]
    cases closing depth .plain rest <;> simp [Prod.map]
  | @string quote body others hquote hbody _ ih =>
    have hstring : (quote :: (body ++ quote :: others)) ++ rest
        = quote :: (body ++ quote :: (others ++ rest)) := by simp
    have hslash : quote ≠ '\\' := by
      rcases hquote with rfl | rfl <;> decide
    rw [hstring, closing_quote hquote, closing_string hbody hslash, ih]
    cases closing depth .plain rest <;> simp [Prod.map]

/-- A balanced expression between parentheses is the argument list, whatever comes behind. -/
theorem arguments?_balanced (h : Balanced expr) (rest : Text) :
    arguments? ('(' :: (expr ++ ')' :: rest)) = some ⟨[], expr⟩ := by
  have hread : closing 0 .plain (expr ++ ')' :: rest) = some (expr, rest) := by
    rw [closing_balanced h, closing_last]
    simp
  have hgap : ('(' :: (expr ++ ')' :: rest)).dropWhile isGap = '(' :: (expr ++ ')' :: rest) := rfl
  rw [arguments?, hgap]
  change (closing 0 .plain (expr ++ ')' :: rest)).map _ = _
  rw [hread]
  rfl

/-- There is no argument list behind a name if what comes after the gap is no parenthesis. -/
theorem arguments?_eq_none {t : Text} (h : (t.dropWhile isGap).head? ≠ some '(') :
    arguments? t = none := by
  rw [arguments?]
  split
  · next body hbody => exact absurd (by rw [hbody]; rfl) h
  · rfl

end CompiledViews.Directive
