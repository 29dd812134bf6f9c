import CompiledViews.Proofs.Directive.Escape
import Mathlib.Data.List.SplitBy

/-!
# Escapes in any order

After the rules, each name takes back one `@` where two of them stand before it, in a pass of its
own over what the passes before have left. The order of the names does not matter, and all passes
together come to a single one: each name behind two `@` or more loses one of them.

A text is looked at here as its maximal runs, of characters of identifiers and of other characters
in turn. Two `@` before a name are the end of a run, and the name is all of the next one. A pass
makes runs of the second kind shorter by one `@`; another one stays there and keeps the runs on both
sides of it apart, so that what is left are the maximal runs of a text again. Which of the runs are
names is not changed by that, and since each run has only one run behind it, no two names want to
have the same `@`.
-/

namespace CompiledViews

namespace Text

variable {run : Text}

/-! ## Runs -/

/-- Whether two characters are of one kind: of identifiers, or not. -/
def isAlike (c d : Char) : Bool := isIdentifierRest c == isIdentifierRest d

/-- A text cut into its maximal runs of characters of identifiers and of other characters. -/
def runs (t : Text) : List Text := t.splitBy isAlike

/-- Whether texts can be the runs of a text: the characters of each are of one kind, and what comes
behind it begins with a character of the other. -/
inductive Alternate : List Text → Prop
  | nil : Alternate []
  | cons {run : Text} {rest : List Text} (kind : Bool) (hne : run ≠ [])
    (hkind : ∀ c ∈ run, isIdentifierRest c = kind)
    (hnext : ∀ c ∈ rest.flatten.head?, isIdentifierRest c = !kind) (h : Alternate rest) :
    Alternate (run :: rest)

theorem kind_of_isChain (h : run.IsChain (isAlike · ·)) {c d : Char} (hc : c ∈ run)
    (hd : d ∈ run) : isIdentifierRest c = isIdentifierRest d := by
  have htrans : IsTrans Char (isAlike · ·) :=
    ⟨fun _ _ _ h h' ↦ beq_iff_eq.mpr ((beq_iff_eq.mp h).trans (beq_iff_eq.mp h'))⟩
  have hsymm : Std.Symm fun c d ↦ isAlike c d = true :=
    ⟨fun _ _ h ↦ beq_iff_eq.mpr (beq_iff_eq.mp h).symm⟩
  have hall := (List.isChain_iff_pairwise.mp h).forall_of_forall fun _ _ ↦ beq_self_eq_true _
  exact beq_iff_eq.mp (hall hc hd)

theorem alternate_of_isChain {runs : List Text} (hne : [] ∉ runs)
    (hsame : ∀ run ∈ runs, run.IsChain (isAlike · ·))
    (hturn : runs.IsChain fun run next ↦ ∃ hrun hnext,
      isAlike (run.getLast hrun) (next.head hnext) = false) :
    Alternate runs := by
  induction runs with
  | nil => exact .nil
  | cons run rest ih =>
    rw [List.mem_cons, not_or] at hne
    have hrun : run ≠ [] := Ne.symm hne.1
    refine .cons (isIdentifierRest (run.getLast hrun)) hrun
      (fun c hc ↦ kind_of_isChain (hsame run List.mem_cons_self) hc (List.getLast_mem hrun)) ?_
      (ih hne.2 (fun run hmem ↦ hsame run (List.mem_cons_of_mem _ hmem)) hturn.tail)
    cases rest with
    | nil => exact fun _ hc ↦ nomatch hc
    | cons next others =>
      obtain ⟨_, hnext, hdiffer⟩ := (List.isChain_cons_cons.mp hturn).1
      intro c hc
      rw [List.flatten_cons, List.head?_append_of_ne_nil _ hnext, List.head?_eq_some_head hnext,
        Option.mem_some_iff] at hc
      subst hc
      rw [isAlike, beq_eq_false_iff_ne] at hdiffer
      exact Bool.eq_not_of_ne (Ne.symm hdiffer)

theorem alternate_runs (t : Text) : Alternate t.runs :=
  alternate_of_isChain (List.nil_notMem_splitBy _ t) (fun _ ↦ List.isChain_of_mem_splitBy)
    (List.isChain_getLast_head_splitBy _ t)

theorem flatten_runs (t : Text) : t.runs.flatten = t := List.flatten_splitBy _ t

theorem Alternate.runs_flatten {runs : List Text} (h : Alternate runs) :
    Text.runs runs.flatten = runs := by
  induction h with
  | nil => rfl
  | @cons run rest kind hne hkind hnext _ ih =>
    have hchain : run.IsChain (isAlike · ·) :=
      (List.pairwise_of_forall_mem_list fun c hc d hd ↦ by
        rw [isAlike, hkind c hc, hkind d hd, beq_self_eq_true]).isChain
    have hborder : ∀ c ∈ run.getLast?, ∀ d ∈ rest.flatten.head?, isAlike c d = false := by
      intro c hc d hd
      rw [isAlike, hkind c (List.mem_of_getLast? hc), hnext d hd]
      cases kind <;> rfl
    rw [List.flatten_cons, Text.runs, List.splitBy_append hborder,
      List.splitBy_of_isChain hne hchain]
    exact congrArg (run :: ·) ih

end Text

namespace Directive

open Text (Alternate)

variable {name run t : Text} {next : Option Text} {names runs : List Text}

/-! ## One `@` less -/

/-- A run with one `@` less, if it ends in two of them and one of the names is next. -/
def undoubleBefore (names : List Text) (next : Option Text) (run : Text) : Text :=
  if next.any (· ∈ names) ∧ ['@', '@'] <:+ run then run.dropLast else run

/-- Runs with one `@` less at the end of each that ends in two of them and has one of the names
behind it. -/
def undouble (names : List Text) : List Text → List Text
  | [] => []
  | run :: rest => undoubleBefore names rest.head? run :: undouble names rest

theorem undoubleBefore_cases (names : List Text) (next : Option Text) (run : Text) :
    undoubleBefore names next run = run ∨
      ∃ start, run = start ++ ['@', '@'] ∧ undoubleBefore names next run = start ++ ['@'] := by
  rw [undoubleBefore]
  split
  · next h =>
    obtain ⟨start, rfl⟩ := h.2
    exact .inr ⟨start, rfl, by rw [List.dropLast_append_of_ne_nil (by simp)]; rfl⟩
  · exact .inl rfl

theorem head?_undoubleBefore (names : List Text) (next : Option Text) (run : Text) :
    (undoubleBefore names next run).head? = run.head? := by
  obtain heq | ⟨start, rfl, heq⟩ := undoubleBefore_cases names next run
  · rw [heq]
  · rw [heq]
    cases start <;> rfl

theorem undoubleBefore_ne_nil (h : run ≠ []) : undoubleBefore names next run ≠ [] := by
  intro hnil
  have hhead := head?_undoubleBefore names next run
  rw [hnil, eq_comm, List.head?_nil, List.head?_eq_none_iff] at hhead
  exact h hhead

theorem mem_of_mem_undoubleBefore {c : Char} (h : c ∈ undoubleBefore names next run) : c ∈ run := by
  obtain heq | ⟨start, rfl, heq⟩ := undoubleBefore_cases names next run
  · rwa [heq] at h
  · rw [heq] at h
    simp only [List.mem_append, List.mem_cons] at h ⊢
    tauto

/-- A run that loses an `@` is not one of the names, before and after. -/
theorem undoubleBefore_mem_iff {others : List Text}
    (hothers : ∀ other ∈ others, other.isIdentifier = true) :
    undoubleBefore names next run ∈ others ↔ run ∈ others := by
  obtain heq | ⟨start, rfl, heq⟩ := undoubleBefore_cases names next run
  · rw [heq]
  · have hnot : ∀ t : Text, '@' ∈ t → t ∉ others := fun t hat hmem ↦
      Text.not_mem_of_isIdentifier (hothers t hmem) (by decide) hat
    rw [heq]
    exact iff_of_false (hnot _ (by simp)) (hnot _ (by simp))

theorem head?_flatten_undouble (h : Alternate runs) :
    (undouble names runs).flatten.head? = runs.flatten.head? := by
  cases h with
  | nil => rfl
  | cons kind hne hkind hnext h =>
    rw [undouble, List.flatten_cons, List.flatten_cons,
      List.head?_append_of_ne_nil _ (undoubleBefore_ne_nil hne), List.head?_append_of_ne_nil _ hne,
      head?_undoubleBefore]

/-- What is left are runs again: none has become empty, and none has grown together with another. -/
theorem alternate_undouble (h : Alternate runs) : Alternate (undouble names runs) := by
  induction h with
  | nil => exact .nil
  | cons kind hne hkind hnext h ih =>
    refine .cons kind (undoubleBefore_ne_nil hne)
      (fun c hc ↦ hkind c (mem_of_mem_undoubleBefore hc)) ?_ ih
    rw [head?_flatten_undouble h]
    exact hnext

@[simp] theorem undouble_no_names (runs : List Text) : undouble [] runs = runs := by
  induction runs with
  | nil => rfl
  | cons run rest ih =>
    rw [undouble, ih, undoubleBefore, if_neg]
    cases rest <;> simp

/-- One run is made shorter for one name only: there is no other one behind it. -/
theorem undoubleBefore_undoubleBefore (hnew : name ∉ names) :
    undoubleBefore names next (undoubleBefore [name] next run)
      = undoubleBefore (name :: names) next run := by
  cases next with
  | none => rfl
  | some word =>
    by_cases hword : word = name
    · simp [undoubleBefore, hword, hnew]
    · simp [undoubleBefore, hword]

/-- Different names do not get into one another's way. -/
theorem undouble_undouble (hnames : ∀ other ∈ names, other.isIdentifier = true)
    (hnew : name ∉ names) (runs : List Text) :
    undouble names (undouble [name] runs) = undouble (name :: names) runs := by
  have hnext : ∀ rest : List Text, (undouble [name] rest).head?.any (· ∈ names)
      = rest.head?.any (· ∈ names) := by
    intro rest
    cases rest with
    | nil => rfl
    | cons word others =>
      have hword : undoubleBefore [name] others.head? word ∈ names ↔ word ∈ names :=
        undoubleBefore_mem_iff hnames
      simp [undouble, hword]
  induction runs with
  | nil => rfl
  | cons run rest ih =>
    have hrun : undoubleBefore names (undouble [name] rest).head?
          (undoubleBefore [name] rest.head? run)
        = undoubleBefore names rest.head? (undoubleBefore [name] rest.head? run) := by
      rw [undoubleBefore, hnext, ← undoubleBefore]
    rw [undouble, undouble, undouble, ih, hrun, undoubleBefore_undoubleBefore hnew]

/-! ## One pass -/

/-- Whether a name stands at the start of a text is seen from the text's first run. -/
theorem standsAtStart_flatten (hname : name.isIdentifier = true) (h : Alternate runs)
    (hfirst : ∀ c ∈ runs.flatten.head?, Text.isIdentifierRest c = true) :
    standsAtStart name runs.flatten = true ↔ runs.head? = some name := by
  rw [standsAtStart_iff]
  cases h with
  | nil =>
    have hnil : ∀ rest, [] ≠ name ++ rest := fun rest heq ↦
      Text.ne_nil_of_isIdentifier hname (List.append_eq_nil_iff.mp heq.symm).1
    exact iff_of_false (fun ⟨rest, heq, _⟩ ↦ hnil rest heq) nofun
  | @cons word rest kind hne hkind hnext _ =>
    obtain ⟨c, cs, rfl⟩ := List.exists_cons_of_ne_nil hne
    obtain rfl : kind = true := (hkind c List.mem_cons_self).symm.trans (hfirst c rfl)
    have hrest : Text.startsInIdentifier rest.flatten = false := by
      rw [Text.startsInIdentifier, Option.any_eq_false]
      exact fun c hc ↦ by simp [hnext c hc]
    rw [List.flatten_cons, List.head?_cons, Option.some_inj]
    constructor
    · -- the name and the run are both all of the identifier
      rintro ⟨behind, heq, hbehind⟩
      rw [← Text.takeWhile_append_of_all hkind hrest, heq,
        Text.takeWhile_append_of_isIdentifier hname hbehind]
    · rintro rfl
      exact ⟨rest.flatten, rfl, hrest⟩

theorem standsAtStart_others {s : Text} (hname : name.isIdentifier = true)
    (hs : ∀ c ∈ s, Text.isIdentifierRest c = false)
    (ht : ∀ c ∈ t.head?, Text.isIdentifierRest c = true) :
    standsAtStart ('@' :: name) (s ++ t) = true ↔ s = ['@'] ∧ standsAtStart name t = true := by
  have hat : ∀ (c : Char) (rest : Text), standsAtStart ('@' :: name) (c :: rest) = true ↔
      c = '@' ∧ standsAtStart name rest = true := by
    intro c rest
    rw [standsAtStart, Text.dropBeginning?, standsAtStart]
    split
    · next h => simp [← h]
    · next h => simp [Ne.symm h]
  cases s with
  | nil =>
    cases t with
    | nil => exact iff_of_false (by simp [standsAtStart, Text.dropBeginning?]) (by simp)
    | cons c cs =>
      have hc : Text.isIdentifierRest c = true := ht c rfl
      refine iff_of_false (fun h ↦ ?_) (by simp)
      rw [((hat c cs).mp h).1] at hc
      cases hc
  | cons c s =>
    cases s with
    | nil => rw [List.singleton_append, hat, List.singleton_inj]
    | cons d s =>
      have hd : Text.isIdentifierRest d = false := hs d (by simp)
      rw [List.cons_append, hat, List.cons_append, standsAtStart_cons hname hd]
      simp

/-- What the pass of a name does to characters that are in no identifier, before a text that
begins with one that is. -/
theorem unescape_others {s : Text} (hname : name.isIdentifier = true)
    (hs : ∀ c ∈ s, Text.isIdentifierRest c = false)
    (ht : ∀ c ∈ t.head?, Text.isIdentifierRest c = true) :
    unescape name (s ++ t) =
      (if standsAtStart name t = true ∧ ['@', '@'] <:+ s then s.dropLast else s)
        ++ unescape name t := by
  induction s with
  | nil => simp
  | cons c s ih =>
    have hrest : ∀ d ∈ s, Text.isIdentifierRest d = false := fun d hd ↦
      hs d (List.mem_cons_of_mem _ hd)
    rw [List.cons_append, unescape_cons hname, ih hrest]
    simp only [standsAtStart_others hname hrest ht, List.suffix_cons_iff]
    by_cases hlast : standsAtStart name t = true ∧ ['@', '@'] = c :: s
    · -- the `@` before the last one is the one that is taken away
      obtain ⟨hstands, heq⟩ := hlast
      cases heq
      have hshort : ¬['@', '@'] <:+ ['@'] := by decide
      simp [hstands, hshort]
    · rw [if_neg fun h ↦ hlast ⟨h.2.2, by rw [h.1, h.2.1]⟩]
      by_cases hbefore : standsAtStart name t = true ∧ ['@', '@'] <:+ s
      · have hne : s ≠ [] := by
          rintro rfl
          simp at hbefore
        rw [if_pos hbefore, if_pos ⟨hbefore.1, .inr hbefore.2⟩, List.dropLast_cons_of_ne_nil hne,
          List.cons_append]
      · rw [if_neg hbefore, if_neg, List.cons_append]
        rintro ⟨hstands, heq | hsuffix⟩
        · exact hlast ⟨hstands, heq⟩
        · exact hbefore ⟨hstands, hsuffix⟩

/-- The pass of a name makes the runs before it shorter by one `@`. -/
theorem unescape_flatten (hname : name.isIdentifier = true) (h : Alternate runs) :
    unescape name runs.flatten = (undouble [name] runs).flatten := by
  induction h with
  | nil => rfl
  | @cons run rest kind hne hkind hnext h ih =>
    rw [undouble, List.flatten_cons, List.flatten_cons, ← ih]
    cases kind with
    | true =>
      have hat : '@' ∉ run := fun hmem ↦ by
        cases hkind _ hmem
      have hsuffix : ¬['@', '@'] <:+ run := fun hsuffix ↦ hat (hsuffix.subset List.mem_cons_self)
      rw [undoubleBefore, if_neg fun h ↦ hsuffix h.2]
      exact unescapeFrom_plain hat _
    | false =>
      rw [unescape_others hname hkind hnext, undoubleBefore]
      have hnext : standsAtStart name rest.flatten = true ↔
          rest.head?.any (· ∈ [name]) = true := by
        rw [standsAtStart_flatten hname h hnext]
        cases rest <;> simp
      simp only [hnext]

theorem runs_unescape (hname : name.isIdentifier = true) (t : Text) :
    (unescape name t).runs = undouble [name] t.runs := by
  have halternate := Text.alternate_runs t
  have hpass := unescape_flatten hname halternate
  rw [Text.flatten_runs] at hpass
  rw [hpass, (alternate_undouble halternate).runs_flatten]

/-! ## All passes -/

theorem foldl_unescape (hnames : ∀ name ∈ names, name.isIdentifier = true) (hnodup : names.Nodup)
    (t : Text) :
    names.foldl (fun text name ↦ unescape name text) t = (undouble names t.runs).flatten := by
  induction names generalizing t with
  | nil => rw [undouble_no_names, Text.flatten_runs, List.foldl_nil]
  | cons name names ih =>
    rw [List.nodup_cons] at hnodup
    have hothers : ∀ other ∈ names, other.isIdentifier = true :=
      fun other hother ↦ hnames other (List.mem_cons_of_mem _ hother)
    rw [List.foldl_cons, ih hothers hnodup.2, runs_unescape (hnames name List.mem_cons_self),
      undouble_undouble hothers hnodup.1]

theorem undouble_congr {others : List Text} (h : ∀ run, run ∈ names ↔ run ∈ others)
    (runs : List Text) : undouble names runs = undouble others runs := by
  induction runs with
  | nil => rfl
  | cons run rest ih => simp only [undouble, undoubleBefore, h, ih]

/-- **One pass.** In whatever order different names take back their `@`, what comes out is one and
the same text: each run that is one of the names loses one `@` if two or more are before it, and
nothing else changes. Leaving out the passes over texts without two `@` in a row does not change
that; such a text is what the pass of any of the names makes of it. -/
theorem foldl_unescape_perm {order : List Text}
    (hnames : ∀ name ∈ names, name.isIdentifier = true) (hnodup : names.Nodup)
    (horder : order.Perm names) (t : Text) :
    order.foldl (fun text name ↦ unescape name text) t = (undouble names t.runs).flatten ∧
      Registry.unescapeAll order t = (undouble names t.runs).flatten ∧
      ∀ name ∈ names, ∀ text, ¬['@', '@'] <:+: text → unescape name text = text := by
  have hidentifiers : ∀ name ∈ order, name.isIdentifier = true :=
    fun name hname ↦ hnames name (horder.mem_iff.mp hname)
  have hpasses : order.foldl (fun text name ↦ unescape name text) t
      = (undouble names t.runs).flatten := by
    rw [foldl_unescape hidentifiers (horder.nodup_iff.mpr hnodup),
      undouble_congr fun _ ↦ horder.mem_iff]
  refine ⟨hpasses, (unescapeAll_eq_foldl hidentifiers t).trans hpasses, ?_⟩
  intro name hname text hsingle
  rw [← hasDoubledAt_iff, Bool.not_eq_true] at hsingle
  exact unescape_of_not_hasDoubledAt (hnames name hname) hsingle

/-- Three names, one of which begins with another: three `@` in a row, an escape behind a word,
escapes side by side, a single `@`, a name that goes on and two `@` before no name. -/
theorem foldl_unescape_perm_prefix :
    ["acffield".toList, "var".toList, "acf".toList].foldl (fun text name ↦ unescape name text)
        "@@acf @@@acffield me@@var@@acf @acf @@acf2 @@ var".toList
      = "@acf @@acffield me@var@acf @acf @@acf2 @@ var".toList := by
  have horder : ["acffield".toList, "var".toList, "acf".toList].Perm
      ["acf".toList, "acffield".toList, "var".toList] := by decide
  obtain ⟨hpasses, -⟩ := foldl_unescape_perm (by decide) (by decide) horder
    "@@acf @@@acffield me@@var@@acf @acf @@acf2 @@ var".toList
  rw [hpasses]
  decide +kernel

end Directive

end CompiledViews
