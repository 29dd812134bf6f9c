import CompiledViews.Proofs.Directive.Parts
import CompiledViews.Proofs.Directive.Registration
import CompiledViews.Proofs.Directive.Tidy

/-!
# Many passes, one translation

Expanding runs over a text once for every rule, and each pass reads what the passes before it have
put in. For a source made of literal text and directives, this comes to the same as translating the
parts one by one: the built-in rules put in nothing that a later pass, or the taking back of
escapes, would look at, and nothing that changes how their neighbours are read.

The passes are followed by induction on the rules, with the parts of the source as the state. After
all passes every part is a literal.
-/

namespace CompiledViews.Directive

variable {available : Capabilities} {rule : Rule} {rules : List Rule} {registry : Registry}
  {parts parts' : List Part} {filter : Text}

/-! ## The translation -/

/-- What a part stands for in the expanded source. -/
def Part.translate (registry : Registry) (available : Capabilities) :
    Part → Except DirectiveError Text
  | literal text => .ok text
  | invocation name expr => registry.expandOne available name expr

/-- The parts translated one by one and put together in their order. -/
def Registry.translate (registry : Registry) (available : Capabilities) (parts : List Part) :
    Except DirectiveError Text :=
  (parts.mapM (Part.translate registry available)).map List.flatten

/-! ## Passes over the parts -/

/-- After a tidy rule's pass the parts are still read as they are meant. -/
theorem Steady.settle {previous : Option Char} (hrule : rule.IsTidy) (h : Steady previous parts)
    (hsettle : List.Forall₂ (fun part part' ↦ part.settle available rule = .ok part')
      parts parts') :
    Steady previous parts' := by
  induction hsettle generalizing previous with
  | nil => trivial
  | @cons part part' rest rest' hpart hrest ih =>
    obtain ⟨hstands, hsteady⟩ := h
    cases part with
    | literal text =>
      cases hpart
      exact ⟨hstands, ih hsteady⟩
    | invocation name expr =>
      obtain ⟨hname, hfree, hexpr, hbare⟩ := hstands
      obtain ⟨-, text, happly, rfl⟩ | ⟨-, rfl⟩ := Part.settle_invocation hpart
      · have htidy : Tidy text := hrule available expr text (fun e he ↦ (hexpr e he).2) happly
        exact ⟨htidy.noAt, (ih hsteady).of_free (htidy.lastOr_free hfree)⟩
      · refine ⟨⟨hname, hfree, hexpr, fun hnone ↦ ?_⟩, ih hsteady⟩
        -- the literal behind a bare name is still there
        obtain rfl | ⟨text, others, rfl, hdetached⟩ := hbare hnone
        · cases hrest
          exact .inl rfl
        · obtain ⟨part, others', hsame, -, rfl⟩ := List.forall₂_cons_left_iff.mp hrest
          cases hsame
          exact .inr ⟨text, others', rfl, hdetached⟩

namespace Registry

theorem expandOne_cons_self (expr : Option Text) :
    (⟨rule :: rules⟩ : Registry).expandOne available rule.name expr
      = rule.apply available expr := by
  simp [expandOne, get?]

theorem expandOne_cons_of_ne {name : Text} (h : name ≠ rule.name) (expr : Option Text) :
    (⟨rule :: rules⟩ : Registry).expandOne available name expr
      = (⟨rules⟩ : Registry).expandOne available name expr := by
  simp [expandOne, get?, Ne.symm h]

/-- Once the first rule's pass has gone through, the other rules translate what it has made of the
parts. -/
theorem translate_settle
    (hsettle : List.Forall₂ (fun part part' ↦ part.settle available rule = .ok part')
      parts parts') :
    (⟨rule :: rules⟩ : Registry).translate available parts
      = (⟨rules⟩ : Registry).translate available parts' := by
  have hpart : ∀ part part' : Part, part.settle available rule = .ok part' →
      part.translate ⟨rule :: rules⟩ available = part'.translate ⟨rules⟩ available := by
    intro part part' hsettle
    cases part with
    | literal text =>
      cases hsettle
      rfl
    | invocation name expr =>
      obtain ⟨rfl, text, happly, rfl⟩ | ⟨hname, rfl⟩ := Part.settle_invocation hsettle
      · exact (expandOne_cons_self expr).trans happly
      · exact expandOne_cons_of_ne hname expr
  rw [translate, translate]
  congr 1
  induction hsettle with
  | nil => rfl
  | cons hfirst _ ih => rw [List.mapM_cons, List.mapM_cons, hpart _ _ hfirst, ih]

/-- A directive that is left after a pass has been there before, and is another rule's. -/
theorem mem_of_settle {name : Text} {expr : Option Text}
    (hsettle : List.Forall₂ (fun part part' ↦ part.settle available rule = .ok part') parts parts')
    (h : .invocation name expr ∈ parts') : .invocation name expr ∈ parts ∧ name ≠ rule.name := by
  induction hsettle with
  | nil => cases h
  | @cons part part' _ _ hpart _ ih =>
    rcases List.mem_cons.mp h with rfl | h
    · cases part with
      | literal text => cases hpart
      | invocation name' expr' =>
        obtain ⟨-, text, -, hliteral⟩ | ⟨hname, hsame⟩ := Part.settle_invocation hpart
        · cases hliteral
        · cases hsame
          exact ⟨List.mem_cons_self, hname⟩
    · exact ⟨List.mem_cons_of_mem _ (ih h).1, (ih h).2⟩

/-- Where no directive is left, the source is what it stands for, and no `@` is in it. -/
theorem translate_literals {previous : Option Char} (h : Steady previous parts)
    (hnone : ∀ name expr, .invocation name expr ∉ parts) :
    '@' ∉ source parts ∧ (empty.translate available parts) = .ok (source parts) := by
  rw [translate]
  induction parts generalizing previous with
  | nil => exact ⟨List.not_mem_nil, rfl⟩
  | cons part rest ih =>
    obtain ⟨hpart, hrest⟩ := h
    obtain ⟨hat, hok⟩ := ih hrest fun name expr hmem ↦ hnone name expr (List.mem_cons_of_mem _ hmem)
    cases part with
    | literal text =>
      refine ⟨by simp [Part.written, hat, show '@' ∉ text from hpart], ?_⟩
      obtain ⟨texts, htexts, hrest⟩ := map_eq_ok_iff.mp hok
      rw [List.mapM_cons, htexts, source_cons, ← hrest]
      rfl
    | invocation name expr => exact (hnone name expr List.mem_cons_self).elim

theorem passes_source (htidy : ∀ rule ∈ rules, rule.IsTidy) (h : Steady none parts)
    (hnames : ∀ name expr, .invocation name expr ∈ parts → name ∈ rules.map (·.name)) :
    (∀ text, passes available rules (source parts) = .ok text →
      '@' ∉ text ∧ (⟨rules⟩ : Registry).translate available parts = .ok text) ∧
    ∀ error, passes available rules (source parts) = .error error →
      ∃ name expr, .invocation name expr ∈ parts ∧
        (⟨rules⟩ : Registry).expandOne available name expr = .error error := by
  induction rules generalizing parts with
  | nil =>
    obtain ⟨hat, hok⟩ := translate_literals h fun name expr hmem ↦
      List.not_mem_nil (hnames name expr hmem)
    refine ⟨fun text htext ↦ ?_, nofun⟩
    cases htext
    exact ⟨hat, hok⟩
  | cons rule rules ih =>
    have hpass : pass available rule (source parts)
        = (parts.mapM (Part.settle available rule)).map source := expandPieces_source h
    rw [passes, hpass]
    cases hmap : parts.mapM (Part.settle available rule) with
    | error error =>
      refine ⟨nofun, fun error' herror' ↦ ?_⟩
      cases herror'
      obtain ⟨part, hpart, hsettle⟩ := exists_of_mapM_eq_error hmap
      obtain ⟨expr, rfl, happly⟩ := Part.settle_eq_error hsettle
      exact ⟨rule.name, expr, hpart, (expandOne_cons_self expr).trans happly⟩
    | ok parts' =>
      have hsettle := mapM_eq_ok_iff.mp hmap
      have hsteady : Steady none parts' := h.settle (htidy rule List.mem_cons_self) hsettle
      have hothers : ∀ name expr, .invocation name expr ∈ parts' → name ∈ rules.map (·.name) := by
        intro name expr hmem
        obtain ⟨hbefore, hne⟩ := mem_of_settle hsettle hmem
        exact (List.mem_cons.mp (hnames name expr hbefore)).resolve_left hne
      obtain ⟨hok, herror⟩ :=
        ih (fun other hother ↦ htidy other (List.mem_cons_of_mem _ hother)) hsteady hothers
      rw [translate_settle hsettle]
      refine ⟨hok, fun error hpasses ↦ ?_⟩
      obtain ⟨name, expr, hmem, hone⟩ := herror error hpasses
      obtain ⟨hbefore, hne⟩ := mem_of_settle hsettle hmem
      exact ⟨name, expr, hbefore, (expandOne_cons_of_ne hne expr).trans hone⟩

theorem unescapeAll_plain (names : List Text) {text : Text} (h : '@' ∉ text) :
    unescapeAll names text = text := by
  have hdoubled : hasDoubledAt text = false := by
    induction text with
    | nil => rfl
    | cons c cs ih =>
      rw [List.mem_cons, not_or] at h
      have hrest := ih h.2
      rw [hasDoubledAt.eq_def]
      split
      · next heq =>
        rw [List.cons.injEq] at heq
        exact (h.1 heq.1.symm).elim
      · next heq =>
        rw [List.cons.injEq] at heq
        rw [← heq.2]
        exact hrest
      · rfl
  induction names with
  | nil => rfl
  | cons name names ih =>
    rw [unescapeAll, List.foldl_cons, if_neg (by simp [hdoubled])]
    exact ih

/-- With tidy rules, expanding a well-written source is translating its parts. -/
theorem expand_source (htidy : ∀ rule ∈ registry.rules, rule.IsTidy)
    (h : WellWritten registry.names parts) :
    (∀ text, registry.expand available (source parts) = .ok text ↔
      registry.translate available parts = .ok text) ∧
    ∀ error, registry.expand available (source parts) = .error error →
      ∃ name expr, .invocation name expr ∈ parts ∧
        registry.expandOne available name expr = .error error := by
  have hsteady : Steady none parts :=
    h.steady (fun _ ↦ isIdentifier_of_mem_names) fun _ _ _ ↦ rfl
  have hnames : ∀ name expr, .invocation name expr ∈ parts → name ∈ registry.names :=
    fun name expr hmem ↦ (h.wellFormed _ hmem).1
  obtain ⟨hok, herror⟩ := passes_source htidy hsteady hnames
  rw [expand]
  cases hpasses : passes available registry.rules (source parts) with
  | ok text =>
    obtain ⟨hat, htranslate⟩ := hok text hpasses
    refine ⟨fun other ↦ ?_, nofun⟩
    rw [htranslate, Except.map, unescapeAll_plain _ hat]
  | error error =>
    obtain ⟨name, expr, hmem, hone⟩ := herror error hpasses
    refine ⟨fun text ↦ ⟨nofun, fun htranslate ↦ ?_⟩, fun other hother ↦ ?_⟩
    · -- were all parts translated, this one would be
      obtain ⟨texts, htexts, -⟩ := map_eq_ok_iff.mp htranslate
      obtain ⟨text, -, htext⟩ := exists_of_mapM_eq_ok htexts hmem
      rw [Part.translate, hone] at htext
      cases htext
    · cases hother
      exact ⟨name, expr, hmem, hone⟩

end Registry

/-! ## The built-in directives -/

def Builtin.names : List Text :=
  ["wpposts", "wpquery", "wpempty", "wpend", "acf", "acfempty", "acfend", "acffield", "acfhas",
    "acfsub", "var"].map String.toList

theorem Builtin.map_name_rules (filter : Text) :
    (Builtin.rules filter).map (·.name) = Builtin.names := rfl

/-- **The built-in directives are translated part by part.** A source of non-empty literal texts
without `@` and of built-in directives, no two of which get into each other's way, expands to what
its parts stand for, in their order, and to nothing else; if that fails, then with the error of one
of the directives. -/
theorem expand_builtins (hfilter : filter.isIdentifier = true)
    (h : WellWritten Builtin.names parts) (available : Capabilities) :
    ∃ registry, Registry.empty.registerBuiltins filter = .ok registry ∧
      (∀ text, registry.expand available (source parts) = .ok text ↔
        registry.translate available parts = .ok text) ∧
      ∀ error, registry.expand available (source parts) = .error error →
        ∃ name expr, .invocation name expr ∈ parts ∧
          registry.expandOne available name expr = .error error := by
  have hnodup : (Registry.empty.names ++ (Builtin.rules filter).map (·.name)).Nodup := by
    rw [Builtin.map_name_rules]
    decide
  have hregister : Registry.empty.registerBuiltins filter = .ok ⟨Builtin.rules filter⟩ := by
    rw [Registry.registerBuiltins, if_pos hfilter, Registry.registerAll_eq _ hnodup]
    rfl
  exact ⟨⟨Builtin.rules filter⟩, hregister,
    Registry.expand_source (fun rule ↦ Builtin.rules_tidy hfilter) h⟩

/-- A parenthesis in a string, a directive directly behind an argument list, a bare one before a
gap, one name that begins with another, and calls within an argument list. -/
theorem expand_builtins_neighbours :
    ∃ registry, Registry.empty.registerBuiltins "sanitize".toList = .ok registry ∧
      registry.expand .none "@acf('a)')@acfempty -@var('k', f(1))@acfend".toList =
        .ok ("\x7b% for row in rows('a)') %\x7d\x7b% else %\x7d -".toList ++
          "\x7b% set k = (f(1)) | sanitize %\x7d\x7b% endfor %\x7d".toList) := by
  have hstring : StringBody '\'' ['a', ')'] :=
    .char (by decide) (by decide) (.char (by decide) (by decide) .nil)
  have hfield : Balanced ['\'', 'a', ')', '\''] := .string (.inl rfl) hstring .nil
  have hkey : StringBody '\'' ['k'] := .char (by decide) (by decide) .nil
  have hargument : Balanced ['1'] := .char (by decide) .nil
  have hpair : Balanced ['\'', 'k', '\'', ',', ' ', 'f', '(', '1', ')'] :=
    .string (.inl rfl) hkey
      (.char (by decide) (.char (by decide) (.char (by decide) (.group hargument .nil))))
  have hwritten : WellWritten Builtin.names [
      .invocation "acf".toList (some ['\'', 'a', ')', '\'']),
      .invocation "acfempty".toList none, .literal [' ', '-'],
      .invocation "var".toList (some ['\'', 'k', '\'', ',', ' ', 'f', '(', '1', ')']),
      .invocation "acfend".toList none] := by
    refine ⟨?_, ?_⟩
    · intro part hpart
      simp only [List.mem_cons, List.not_mem_nil, or_false] at hpart
      rcases hpart with rfl | rfl | rfl | rfl | rfl
      · exact ⟨by decide, fun e he ↦ by cases he; exact ⟨hfield, by decide⟩⟩
      · exact ⟨by decide, nofun⟩
      · exact ⟨by decide, by decide⟩
      · exact ⟨by decide, fun e he ↦ by cases he; exact ⟨hpair, by decide⟩⟩
      · exact ⟨by decide, nofun⟩
    · have hdetached : Detached [' ', '-'] := ⟨rfl, '-', rfl, by decide⟩
      have hlast : Text.isIdentifierRest '-' = false := rfl
      simp [Part.CanPrecede, hdetached, hlast]
  obtain ⟨registry, hregister, hexpand, -⟩ :=
    expand_builtins (show Text.isIdentifier "sanitize".toList = true by decide) hwritten .none
  refine ⟨registry, hregister, (hexpand _).mpr ?_⟩
  cases hregister
  rfl

end CompiledViews.Directive
