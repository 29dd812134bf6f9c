import CompiledViews.Template.Statement.Reader

/-!
# What parsing fails for

A template cannot be parsed where its text breaks the rules of the language: with a syntax error or
with an escape that does not exist. In particular parsing never says that a view is missing.

The reason is that readers only ever take tokens away. They fail with a syntax error of their own,
or on a faulty token that was among the tokens from the start, and that one was made of the text.
-/

namespace CompiledViews.Template

/-! ## Tokens -/

/-- The faults that a text can be at fault for. -/
def FaultKind.OfText (kind : FaultKind) : Prop := kind = .syntaxError ∨ kind = .badEscape

/-- Whether a token, if it is a faulty one, is so on account of the text. -/
def Token.OfText (token : Token) : Prop := ∀ kind, token = .faulty kind → kind.OfText

theorem Token.ofText_syntaxError : (Token.faulty .syntaxError).OfText := by
  rintro kind ⟨⟩
  exact .inl rfl

theorem ofText_readString (quote : Char) (t : Text) : (readString quote t).1.OfText := by
  rw [readString]
  split
  · exact Token.ofText_syntaxError
  · split
    · simp [Token.OfText]
    · rintro kind ⟨⟩
      exact .inr rfl

theorem ofText_integerToken (base : Nat) (digits : Text) : (integerToken base digits).OfText := by
  rw [integerToken]
  split
  · exact Token.ofText_syntaxError
  · split
    · split
      · simp [Token.OfText]
      · exact Token.ofText_syntaxError
    · exact Token.ofText_syntaxError

theorem ofText_doubleToken (whole fraction exponent : Text) :
    (doubleToken whole fraction exponent).OfText := by
  rw [doubleToken]
  split
  · simp [Token.OfText]
  · exact Token.ofText_syntaxError

theorem ofText_readDecimal (t : Text) : (readDecimal t).1.OfText := by
  rw [readDecimal]
  split
  · exact ofText_integerToken _ _
  · next exponent rest _ _ => exact ofText_doubleToken _ [] exponent
  · next fraction rest _ =>
    split
    · exact ofText_doubleToken _ fraction ['0']
    · next exponent rest _ => exact ofText_doubleToken _ fraction exponent

theorem ofText_readNumber (t : Text) : (readNumber t).1.OfText := by
  rw [readNumber]
  split
  · exact ofText_integerToken _ _
  · dsimp only
    split
    · exact Token.ofText_syntaxError
    · exact ofText_readDecimal t

theorem ofText_readToken (t : Text) : (readToken t).1.OfText := by
  cases t with
  | nil => exact Token.ofText_syntaxError
  | cons c rest =>
    rw [readToken]
    split
    · exact ofText_readString c rest
    · split
      · exact ofText_readNumber _
      · split
        · simp [Token.OfText]
        · rw [readSymbol]
          split
          · simp [Token.OfText]
          · exact Token.ofText_syntaxError

theorem ofText_pageToken (t : Text) : ∀ token ∈ pageToken t, token.OfText := by
  rw [pageToken]
  split <;> simp [Token.OfText]

theorem ofText_stepMarker (marker : Marker) (t : Text) :
    ∀ token ∈ (stepMarker marker t).tokens, token.OfText := by
  cases marker with
  | output => simp [stepMarker, Token.OfText]
  | block =>
    rw [stepMarker]
    split
    · simp [Token.OfText]
    · split
      · simp [Token.ofText_syntaxError]
      · simp [Token.OfText]
  | comment =>
    rw [stepMarker]
    split
    · simp [Token.ofText_syntaxError]
    · simp

theorem ofText_stepPage (t : Text) : ∀ token ∈ (stepPage t).tokens, token.OfText := by
  rw [stepPage]
  split
  · exact ofText_pageToken _
  · next marker rest hmarker =>
    intro token htoken
    rcases List.mem_append.mp htoken with hpage | hmarker
    · exact ofText_pageToken _ token hpage
    · exact ofText_stepMarker marker rest token hmarker

theorem ofText_stepInside {region : Nat → Region} {braces : Nat} {ending : Token} {close : Text}
    (hending : ending.OfText) (t : Text) :
    ∀ token ∈ (stepInside region braces ending close t).tokens, token.OfText := by
  rw [stepInside]
  split
  · simp
  · next c rest ht =>
    have hread := ofText_readToken (c :: rest)
    generalize (if braces = 0 then _ else _ : Option (Bool × Text)) = ended?
    cases ended? with
    | some ended => simpa using hending
    | none =>
      dsimp only
      split
      · next kind after hfaulty =>
        rw [hfaulty] at hread
        simpa using hread
      · next token after hfine hread' =>
        rw [hread'] at hread
        simpa using hread

theorem ofText_step (region : Region) (t : Text) :
    ∀ token ∈ (step region t).tokens, token.OfText := by
  cases region with
  | page trim => exact ofText_stepPage _
  | output braces => exact ofText_stepInside (by simp [Token.OfText]) t
  | block braces => exact ofText_stepInside (by simp [Token.OfText]) t

theorem ofText_tokensIn (fuel : Nat) (region : Region) (t : Text) :
    ∀ token ∈ tokensIn fuel region t, token.OfText := by
  induction fuel generalizing region t with
  | zero => simp [tokensIn]
  | succ fuel ih =>
    intro token htoken
    rw [tokensIn] at htoken
    split at htoken
    · exact ofText_step region t token htoken
    · rcases List.mem_append.mp htoken with hfirst | hrest
      · exact ofText_step region t token hfirst
      · exact ih _ _ token hrest

theorem ofText_tokens {t : Text} {kind : FaultKind} (h : .faulty kind ∈ tokens t) : kind.OfText :=
  ofText_tokensIn _ _ _ _ h kind rfl

/-! ## Readers -/

/-- Whether a reader does nothing but to read: what it leaves is an end of the tokens that it was
given, and it fails with a syntax error or on a faulty one of them. -/
structure Reader.Reads {α : Type} (reader : Reader α) : Prop where
  rest : ∀ {ts rest : List Token} {a : α}, reader.run ts = .ok (a, rest) → rest <:+ ts
  fails : ∀ {ts : List Token} {kind : FaultKind}, reader.run ts = .error kind →
    kind = .syntaxError ∨ .faulty kind ∈ ts

namespace Reader

variable {α β : Type}

namespace Reads

theorem pure (a : α) : Reads (Pure.pure a) where
  rest h := by
    cases h
    exact List.suffix_rfl
  fails h := by cases h

theorem throw : Reads (throw .syntaxError : Reader α) where
  rest h := by cases h
  fails h := by
    cases h
    exact .inl rfl

theorem get : Reads (get : Reader (List Token)) where
  rest h := by
    cases h
    exact List.suffix_rfl
  fails h := by cases h

theorem taking {f : List Token → List Token} (hf : ∀ ts, f ts <:+ ts) :
    Reads (modify f : Reader PUnit) where
  rest h := by
    cases h
    exact hf _
  fails h := by cases h

theorem tail : Reads (modify List.tail : Reader PUnit) := taking List.tail_suffix

theorem bind {reader : Reader α} {f : α → Reader β} (h : reader.Reads) (hf : ∀ a, (f a).Reads) :
    (reader >>= f).Reads where
  rest {ts rest b} hrun := by
    rw [StateT.run_bind] at hrun
    cases hfirst : reader.run ts with
    | error kind =>
      rw [hfirst] at hrun
      cases hrun
    | ok result =>
      rw [hfirst] at hrun
      exact ((hf result.1).rest hrun).trans (h.rest hfirst)
  fails {ts kind} hrun := by
    rw [StateT.run_bind] at hrun
    cases hfirst : reader.run ts with
    | error kind' =>
      rw [hfirst] at hrun
      cases hrun
      exact h.fails hfirst
    | ok result =>
      rw [hfirst] at hrun
      exact ((hf result.1).fails hrun).imp_right fun hmem ↦ (h.rest hfirst).mem hmem

theorem map {reader : Reader α} (h : reader.Reads) (f : α → β) : (f <$> reader).Reads := by
  rw [map_eq_pure_bind]
  exact h.bind fun a ↦ pure (f a)

theorem ite {c : Prop} [Decidable c] {yes no : Reader α} (hyes : yes.Reads) (hno : no.Reads) :
    (if c then yes else no).Reads := by
  split
  · exact hyes
  · exact hno

end Reads

theorem run_peek? (ts : List Token) :
    peek?.run ts = match ts.head? with
      | some (.faulty kind) => .error kind
      | token? => .ok (token?, ts) := by
  rw [peek?, StateT.run_bind]
  change StateT.run (match ts.head? with
    | some (.faulty kind) => MonadExcept.throw kind
    | token? => Pure.pure token? : Reader (Option Token)) ts = _
  split <;> rfl

theorem reads_peek? : Reads peek? where
  rest {ts rest token?} h := by
    rw [run_peek?] at h
    split at h
    · cases h
    · cases h
      exact List.suffix_rfl
  fails {ts kind} h := by
    rw [run_peek?] at h
    split at h
    · next hhead =>
      cases h
      exact .inr (List.mem_of_head? hhead)
    · cases h

theorem reads_next? : Reads next? := by
  refine reads_peek?.bind fun token? ↦ ?_
  exact Reads.tail.bind fun _ ↦ .pure token?

theorem reads_next : Reads next := by
  refine reads_next?.bind fun token? ↦ ?_
  cases token? with
  | none => exact .throw
  | some token => exact .pure token

theorem reads_accept (token : Token) : Reads (accept token) := by
  refine reads_peek?.bind fun token? ↦ ?_
  exact .ite (Reads.tail.bind fun _ ↦ .pure true) (.pure false)

theorem reads_expect (token : Token) : Reads (expect token) := by
  refine reads_next.bind fun token' ↦ ?_
  exact .ite .throw (.pure _)

theorem reads_name : Reads name := by
  refine reads_next.bind fun token ↦ ?_
  cases token with
  | name t => exact .pure t
  | _ => exact .throw

theorem reads_count (token : Token) : Reads (count token) := by
  refine Reads.get.bind fun ts ↦ ?_
  exact (Reads.taking fun ts ↦ List.drop_suffix _ ts).bind fun _ ↦ .pure _

theorem reads_growFrom {extend : α → Reader (Option α)} (h : ∀ a, (extend a).Reads) (fuel : Nat)
    (a : α) : Reads (growFrom extend fuel a) := by
  induction fuel generalizing a with
  | zero => exact .pure a
  | succ fuel ih =>
    refine (h a).bind fun extended? ↦ ?_
    cases extended? with
    | none => exact .pure a
    | some extended => exact ih extended

theorem reads_grow {start : Reader α} {extend : α → Reader (Option α)} (hstart : start.Reads)
    (h : ∀ a, (extend a).Reads) : Reads (grow start extend) :=
  hstart.bind fun a ↦ Reads.get.bind fun _ ↦ reads_growFrom h _ a

theorem reads_itemsFrom {item : Reader α} (h : item.Reads) (close : Symbol) (fuel : Nat)
    (first : Bool) : Reads (itemsFrom close item fuel first) := by
  induction fuel generalizing first with
  | zero => exact .throw
  | succ fuel ih =>
    have hitems : Reads (do
        let a ← item
        return a :: (← itemsFrom close item fuel false)) :=
      h.bind fun a ↦ (ih false).bind fun _ ↦ .pure _
    refine (reads_accept _).bind fun closed ↦ .ite (.pure []) ?_
    refine .ite ?_ hitems
    exact (reads_expect _).bind fun _ ↦ (reads_accept _).bind fun _ ↦ .ite (.pure []) hitems

theorem reads_items {item : Reader α} (h : item.Reads) (close : Symbol) :
    Reads (items close item) := Reads.get.bind fun _ ↦ reads_itemsFrom h close _ true

theorem reads_mapM {f : α → Reader β} (h : ∀ a, (f a).Reads) (as : List α) :
    Reads (as.mapM f) := by
  induction as with
  | nil => exact .pure []
  | cons a as ih =>
    rw [List.mapM_cons]
    exact (h a).bind fun _ ↦ ih.bind fun _ ↦ .pure _

end Reader

/-! ## Expressions -/

namespace Expression

open Reader

section Operand

variable {inner : Reader Expression}

theorem reads_group (h : inner.Reads) : (group inner).Reads := by
  refine (reads_accept _).bind fun closed ↦ .ite (.pure _) ?_
  refine h.bind fun first ↦ reads_peek?.bind fun token? ↦ .ite ?_ ?_
  · exact Reads.get.bind fun _ ↦ (reads_itemsFrom h _ _ _).bind fun _ ↦ .pure _
  · exact (reads_expect _).bind fun _ ↦ .pure first

theorem reads_entry (h : inner.Reads) : (entry inner).Reads :=
  h.bind fun _ ↦ (reads_expect _).bind fun _ ↦ h.bind fun _ ↦ .pure _

theorem reads_adjoinedFrom (fuel : Nat) (t : Text) : (adjoinedFrom fuel t).Reads := by
  induction fuel generalizing t with
  | zero => exact .pure t
  | succ fuel ih =>
    refine reads_peek?.bind fun token? ↦ ?_
    split
    · exact Reads.tail.bind fun _ ↦ ih _
    · exact .pure t

theorem reads_primary (h : inner.Reads) : (primary inner).Reads := by
  refine reads_next.bind fun token ↦ ?_
  split
  · exact .pure _
  · exact Reads.get.bind fun _ ↦ (reads_adjoinedFrom _ _).bind fun _ ↦ .pure _
  · exact .pure _
  · exact .pure _
  · exact reads_group h
  · exact (reads_items h _).bind fun _ ↦ .pure _
  · exact (reads_items (reads_entry h) _).bind fun _ ↦ .pure _
  · exact .throw

theorem reads_argument (h : inner.Reads) : (argument inner).Reads := by
  refine h.bind fun e ↦ ?_
  split
  · exact (reads_accept _).bind fun keyword ↦ .ite (h.bind fun _ ↦ .pure _) (.pure _)
  · exact .pure _

theorem reads_arguments (h : inner.Reads) : (arguments inner).Reads := by
  refine (reads_items (reads_argument h) _).bind fun all ↦ ?_
  refine .ite .throw ?_
  split
  · exact .pure _
  · refine (reads_mapM (fun (key?, e) ↦ ?_) _).bind fun _ ↦ .pure _
    cases key? with
    | some key => exact .pure _
    | none => exact .throw

theorem reads_afterPoint (e : Expression) : (afterPoint e).Reads := by
  refine reads_next.bind fun token ↦ ?_
  split
  · exact .pure _
  · exact .ite (.pure _) .throw
  · exact .throw

theorem reads_postfix? (h : inner.Reads) (e : Expression) : (postfix? inner e).Reads := by
  refine (reads_accept _).bind fun dot ↦ .ite ((reads_afterPoint e).bind fun _ ↦ .pure _) ?_
  refine (reads_accept _).bind fun bracket ↦ .ite ?_ ?_
  · exact h.bind fun _ ↦ (reads_expect _).bind fun _ ↦ .pure _
  · refine (reads_accept _).bind fun paren ↦ .ite ?_ (.pure _)
    exact (reads_arguments h).bind fun _ ↦ .pure _

theorem reads_argumentsIfAny (h : inner.Reads) : (argumentsIfAny inner).Reads :=
  (reads_accept _).bind fun _ ↦ .ite (reads_arguments h) (.pure _)

theorem reads_filterCall (h : inner.Reads) : (filterCall inner).Reads :=
  reads_name.bind fun _ ↦ (reads_argumentsIfAny h).bind fun _ ↦ .pure _

end Operand

/-! The parts of an expression are readers, and so is every level made of them. -/

variable {parts : Parts}

/-- Whether the parts of an expression do nothing but to read. -/
structure Parts.Read (parts : Parts) : Prop where
  primary : parts.primary.Reads
  inner : parts.inner.Reads

theorem reads_operand (h : parts.Read) : (operand parts).Reads := by
  refine (reads_count _).bind fun signs ↦ h.primary.bind fun e ↦ ?_
  exact reads_grow (.pure _) fun e ↦ reads_postfix? h.inner e

theorem reads_testArguments (h : parts.Read) : (testArguments parts).Reads := by
  refine (reads_accept _).bind fun paren ↦ .ite (reads_arguments h.inner) ?_
  refine reads_peek?.bind fun token? ↦ .ite ?_ (.pure _)
  exact (reads_operand h).bind fun _ ↦ .pure _

theorem reads_applied? (h : parts.Read) (e : Expression) : (applied? parts e).Reads := by
  refine (reads_accept _).bind fun bar ↦ .ite ?_ ?_
  · exact (reads_filterCall h.inner).bind fun _ ↦ .pure _
  · refine (reads_accept _).bind fun is ↦ .ite ?_ (.pure _)
    refine (reads_accept _).bind fun negated ↦ reads_name.bind fun name ↦ ?_
    exact (reads_testArguments h).bind fun _ ↦ .pure _

theorem reads_factor (h : parts.Read) : (factor parts).Reads :=
  reads_grow (reads_operand h) fun e ↦ reads_applied? h e

theorem reads_level {tighter : Reader Expression} (operators : List (Symbol × Operator))
    (h : tighter.Reads) : (level operators tighter).Reads := by
  refine reads_grow h fun left ↦ reads_peek?.bind fun token? ↦ ?_
  split
  · split
    · exact Reads.tail.bind fun _ ↦ h.bind fun _ ↦ .pure _
    · exact .pure _
  · exact .pure _

theorem reads_sum (h : parts.Read) : (sum parts).Reads :=
  reads_level _ <| reads_level _ <| reads_level _ <| reads_level _ <| reads_factor h

theorem reads_comparisonSign? : comparisonSign?.Reads := by
  refine (reads_accept _).bind fun isIn ↦ .ite (.pure _) ?_
  refine (reads_accept _).bind fun isNot ↦ .ite ((reads_expect _).bind fun _ ↦ .pure _) ?_
  refine reads_peek?.bind fun token? ↦ ?_
  split
  · split
    · exact Reads.tail.bind fun _ ↦ .pure _
    · exact .pure _
  · exact .pure _

theorem reads_comparisonChain (h : parts.Read) : (comparisonChain parts).Reads := by
  refine (reads_sum h).bind fun first ↦
    (reads_grow (.pure _) fun before ↦ ?_).bind fun links ↦ .pure _
  refine reads_comparisonSign?.bind fun sign? ↦ ?_
  split
  · exact (reads_sum h).bind fun _ ↦ .pure _
  · exact .pure _

theorem reads_negation (h : parts.Read) : (negation parts).Reads :=
  (reads_count _).bind fun _ ↦ (reads_comparisonChain h).bind fun _ ↦ .pure _

theorem reads_conjunction (h : parts.Read) : (conjunction parts).Reads := by
  refine reads_grow (reads_negation h) fun left ↦ (reads_accept _).bind fun more ↦ ?_
  exact .ite ((reads_negation h).bind fun _ ↦ .pure _) (.pure _)

theorem reads_disjunction (h : parts.Read) : (disjunction parts).Reads := by
  refine reads_grow (reads_conjunction h) fun left ↦ (reads_accept _).bind fun more ↦ ?_
  exact .ite ((reads_conjunction h).bind fun _ ↦ .pure _) (.pure _)

theorem reads_choiceFrom (h : parts.Read) (fuel : Nat) : (choiceFrom parts fuel).Reads := by
  induction fuel with
  | zero => exact .throw
  | succ fuel ih =>
    refine reads_grow (reads_disjunction h) fun yes ↦ (reads_accept _).bind fun more ↦ ?_
    refine .ite ?_ (.pure _)
    refine (reads_disjunction h).bind fun test ↦ (reads_accept _).bind fun otherwise ↦ ?_
    exact .ite (ih.bind fun _ ↦ .pure _) (.bind (.pure _) fun _ ↦ .pure _)

theorem reads_choice (h : parts.Read) : (choice parts).Reads :=
  Reads.get.bind fun _ ↦ reads_choiceFrom h _

end Expression

theorem Reader.reads_expression (depth : Nat) : (Reader.expression depth).Reads := by
  induction depth using Reader.expression.induct with
  | case1 => exact .throw
  | case2 => exact Expression.reads_choice ⟨.throw, .throw⟩
  | case3 depth ihprimary ihinner =>
    exact Expression.reads_choice ⟨Expression.reads_primary ihprimary, ihinner⟩

theorem Reader.reads_simpleExpression (depth : Nat) : (Reader.simpleExpression depth).Reads := by
  cases depth with
  | zero => exact .throw
  | succ depth =>
    exact Expression.reads_disjunction
      ⟨Expression.reads_primary (reads_expression depth), reads_expression (depth + 1)⟩

/-! ## Statements -/

namespace Statement

open Reader

theorem reads_assignable : assignable.Reads :=
  reads_name.bind fun t ↦ .ite .throw (.pure t)

theorem reads_targetsFrom {nested : Reader Target} (h : nested.Reads) (fuel : Nat)
    (before : List Target) : (targetsFrom nested fuel before).Reads := by
  induction fuel generalizing before with
  | zero => exact .throw
  | succ fuel ih =>
    have hafter : ∀ target : Target, Reads (do
        if (← peek?) = some (.symbol .comma) then targetsFrom nested fuel (before ++ [target])
        else if before.isEmpty then return target
        else return .group (before ++ [target])) := fun target ↦
      reads_peek?.bind fun _ ↦ .ite (ih _) (.ite (.pure _) (.pure _))
    have hnext : Reads (do
        if endsTargets (← peek?) then return .group before
        let target ←
          if ← accept (.symbol .openParen) then
            let target ← nested
            expect (.symbol .closeParen)
            pure target
          else Target.name <$> assignable
        if (← peek?) = some (.symbol .comma) then targetsFrom nested fuel (before ++ [target])
        else if before.isEmpty then return target
        else return .group (before ++ [target])) := by
      refine reads_peek?.bind fun token? ↦ .ite (.pure _) ?_
      refine (reads_accept _).bind fun paren ↦ .ite ?_ ?_
      · refine h.bind fun target ↦ (reads_expect _).bind fun _ ↦ ?_
        exact Reads.bind (.pure target) hafter
      · exact (reads_assignable.map _).bind hafter
    exact .ite ((reads_expect _).bind fun _ ↦ hnext) hnext

theorem reads_readTarget (depth : Nat) : (readTarget depth).Reads := by
  induction depth with
  | zero => exact .throw
  | succ depth ih => exact Reads.get.bind fun _ ↦ reads_targetsFrom ih _ _

theorem reads_target : target.Reads := Reads.get.bind fun _ ↦ reads_readTarget _

variable {parts : Parts}

theorem reads_bodyFrom (h : parts.statement.Reads) (ends : List Token) (fuel : Nat) :
    (bodyFrom parts ends fuel).Reads := by
  induction fuel with
  | zero => exact .pure []
  | succ fuel ih =>
    refine reads_next?.bind fun token? ↦ ?_
    split
    · exact .pure []
    · exact ih.bind fun _ ↦ .pure _
    · refine (reads_expression _).bind fun _ ↦ (reads_expect _).bind fun _ ↦ ?_
      exact ih.bind fun _ ↦ .pure _
    · refine reads_peek?.bind fun token? ↦ ?_
      split
      · exact .throw
      · refine .ite (.pure []) ?_
        exact h.bind fun _ ↦ (reads_expect _).bind fun _ ↦ ih.bind fun _ ↦ .pure _
    · exact .throw

theorem reads_body (h : parts.statement.Reads) (ends : List String) : (body parts ends).Reads :=
  (reads_expect _).bind fun _ ↦ Reads.get.bind fun _ ↦ reads_bodyFrom h _ _

theorem reads_readConditional (h : parts.statement.Reads) (fuel : Nat) :
    (readConditional parts fuel).Reads := by
  induction fuel with
  | zero => exact .throw
  | succ fuel ih =>
    refine (reads_simpleExpression _).bind fun test ↦ (reads_body h _).bind fun yes ↦ ?_
    refine reads_next?.bind fun token? ↦ .ite ?_ (.ite ?_ (.pure _))
    · exact (reads_body h _).bind fun _ ↦ reads_next?.bind fun _ ↦ .pure _
    · exact ih.bind fun _ ↦ .pure _

theorem reads_readLoop (h : parts.statement.Reads) : (readLoop parts).Reads := by
  have hbodies : ∀ (target : Target) (source : Expression) (filter : Option Expression), Reads (do
      let _ ← accept (word "recursive")
      let each ← body parts ["endfor", "else"]
      let otherwise ← if ← accept (word "else") then body parts ["endfor"] else pure []
      let _ ← next?
      return loop target source filter each otherwise) := by
    intro target source filter
    refine (reads_accept _).bind fun recursive ↦ (reads_body h _).bind fun each ↦ ?_
    have hend : ∀ otherwise : List Statement, Reads (do
        let _ ← next?
        return loop target source filter each otherwise) := fun _ ↦ reads_next?.bind fun _ ↦ .pure _
    refine (reads_accept _).bind fun more ↦ .ite ?_ ?_
    · exact (reads_body h _).bind hend
    · exact Reads.bind (.pure []) hend
  refine reads_target.bind fun target ↦ (reads_expect _).bind fun _ ↦ ?_
  refine (reads_simpleExpression _).bind fun source ↦ (reads_accept _).bind fun filtered ↦ ?_
  refine .ite ?_ ?_
  · exact ((reads_expression _).map _).bind (hbodies target source)
  · exact Reads.bind (.pure none) (hbodies target source)

theorem reads_filters : (filters parts).Reads := by
  have hcall := Expression.reads_filterCall (reads_expression parts.depth)
  refine reads_grow (hcall.bind fun _ ↦ .pure _) fun before ↦ (reads_accept _).bind fun more ↦ ?_
  exact .ite (hcall.bind fun _ ↦ .pure _) (.pure _)

theorem reads_value : (value parts).Reads := by
  refine (reads_expect _).bind fun _ ↦ (reads_expression _).bind fun first ↦ ?_
  refine (reads_grow (.pure _) fun before ↦
    (reads_accept _).bind fun more ↦ ?_).bind fun _ ↦ .pure _
  exact .ite ((reads_expression _).bind fun _ ↦ .pure _) (.pure _)

theorem reads_assignableField : assignableField.Reads := by
  refine reads_assignable.bind fun name ↦ Reads.bind ?_ fun fields ↦ ?_
  · refine reads_grow (.pure _) fun before ↦ (reads_accept _).bind fun more ↦ ?_
    exact .ite (reads_name.bind fun _ ↦ .pure _) (.pure _)
  · split
    · exact .pure _
    · exact .pure _

theorem reads_readAssignment (h : parts.statement.Reads) : (readAssignment parts).Reads := by
  refine reads_peek?.bind fun token? ↦ .ite ?_ ?_
  · exact reads_target.bind fun _ ↦ reads_value.bind fun _ ↦ .pure _
  · refine reads_assignableField.bind fun first ↦ reads_peek?.bind fun token? ↦ ?_
    split
    · refine Reads.tail.bind fun _ ↦ reads_filters.bind fun _ ↦ ?_
      exact (reads_body h _).bind fun _ ↦ reads_next?.bind fun _ ↦ .pure _
    · exact (reads_body h _).bind fun _ ↦ reads_next?.bind fun _ ↦ .pure _
    · refine Reads.get.bind fun _ ↦ (reads_targetsFrom reads_target _ _).bind fun _ ↦ ?_
      exact reads_value.bind fun _ ↦ .pure _
    · exact reads_value.bind fun _ ↦ .pure _

theorem reads_readBlock (h : parts.statement.Reads) : (readBlock parts).Reads := by
  refine reads_name.bind fun name ↦ (reads_body h _).bind fun written ↦ ?_
  refine reads_next?.bind fun _ ↦ reads_peek?.bind fun token? ↦ ?_
  dsimp only
  split
  · exact Reads.tail.bind fun _ ↦ .ite (Reads.throw.bind fun _ ↦ .pure _) (.pure _)
  · exact .pure _

theorem reads_contextWords : contextWords.Reads := by
  have hcontext : ∀ either : Bool, Reads (do
      if either then expect (word "context")
      return either) := fun either ↦
    .ite ((reads_expect _).bind fun _ ↦ .pure _) (.pure _)
  refine (reads_accept _).bind fun without ↦ .ite ?_ ?_
  · exact Reads.bind (.pure true) hcontext
  · exact (reads_accept _).bind hcontext

theorem reads_readEmbedded : (readEmbedded parts).Reads := by
  refine (reads_expression _).bind fun e ↦ reads_contextWords.bind fun context ↦ ?_
  refine (reads_accept _).bind fun ignore ↦ .ite ?_ (.pure _)
  refine (reads_expect _).bind fun _ ↦ .ite ?_ (.pure _)
  exact reads_contextWords.bind fun _ ↦ .pure _

theorem reads_read (depth : Nat) : (read depth).Reads := by
  induction depth with
  | zero => exact .throw
  | succ depth ih =>
    refine reads_name.bind fun word ↦ ?_
    split
    · exact Reads.get.bind fun _ ↦ reads_readConditional ih _
    · exact reads_readLoop ih
    · exact reads_readAssignment ih
    · exact reads_readBlock ih
    · exact (reads_expression _).bind fun _ ↦ .pure _
    · exact reads_readEmbedded
    · exact .throw

end Statement

theorem reads_readTemplate : readTemplate.Reads :=
  Reader.Reads.get.bind fun _ ↦ Statement.reads_bodyFrom (Statement.reads_read _) _ _

/-- Whatever is wrong with a template that cannot be parsed, its text is at fault. -/
theorem ofText_of_parse_error {t : Text} {kind : FaultKind} (h : parse t = .error kind) :
    kind.OfText := by
  rw [parse] at h
  cases hread : readTemplate.run (tokens t) with
  | error kind' =>
    rw [hread] at h
    cases h
    exact (reads_readTemplate.fails hread).elim .inl ofText_tokens
  | ok result =>
    rw [hread] at h
    dsimp only [bind, Except.bind] at h
    split at h
    · cases h
      exact .inl rfl
    · cases h

end CompiledViews.Template
