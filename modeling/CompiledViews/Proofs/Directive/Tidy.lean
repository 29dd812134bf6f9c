import CompiledViews.Proofs.Directive.Expression
import CompiledViews.Proofs.Directive.Scanning

/-!
# What rules put in

A rule is tidy if its expansions can be forgotten about: they contain no `@`, so later passes and
the taking back of escapes find nothing in them, and what comes behind one is read as if it stood
where the directive stood. The built-in rules are tidy, because they put in statements and outputs
of the template language, which end with a brace.
-/

namespace CompiledViews

namespace Directive

variable {rule : Rule} {filter : Text}

/-! ## Tidy expansions -/

/-- Whether an expansion neither begins a directive nor keeps one behind it from beginning. -/
structure Tidy (text : Text) : Prop where
  noAt : '@' ∉ text
  free : text.getLast?.any blocksDirective = false

namespace Tidy

variable {text other : Text}

theorem nil : Tidy [] := ⟨List.not_mem_nil, rfl⟩

theorem append (h : Tidy text) (h' : Tidy other) : Tidy (text ++ other) := by
  refine ⟨by simp [h.noAt, h'.noAt], ?_⟩
  rw [List.getLast?_append]
  cases hlast : other.getLast? with
  | none => exact h.free
  | some c =>
    have hfree := h'.free
    rw [hlast] at hfree
    exact hfree

/-- Behind a tidy text a directive may begin if one might have begun before it. -/
theorem lastOr_free {previous : Option Char} (h : Tidy text)
    (hfree : previous.any blocksDirective = false) :
    (lastOr previous text).any blocksDirective = false := by
  by_cases hempty : text = []
  · rw [hempty, lastOr_nil]
    exact hfree
  · rw [lastOr_of_ne_nil hempty]
    exact h.free

end Tidy

/-- Whether the rule's expansions are tidy, as long as there is no `@` in the expression. -/
def Rule.IsTidy (rule : Rule) : Prop :=
  ∀ available expr text, (∀ e ∈ expr, '@' ∉ e) → rule.apply available expr = .ok text → Tidy text

/-- A rule that is not enabled leaves nothing behind, so its expansions alone matter. -/
theorem Rule.isTidy_of_transform
    (h : ∀ expr text, (∀ e ∈ expr, '@' ∉ e) → rule.transform expr = .ok text → Tidy text) :
    rule.IsTidy := by
  intro available expr text hexpr hok
  rw [Rule.apply] at hok
  split at hok
  · exact h expr text hexpr hok
  · cases hok
    exact .nil

/-! ## The built-in rules -/

namespace Builtin

variable {body e : Text} {expr : Option Text} {directive key value text : Text}

theorem tidy_statement (h : '@' ∉ body) : Tidy (statement body) := by
  refine ⟨by simp [statement, h], ?_⟩
  rw [statement, List.getLast?_append]
  rfl

theorem tidy_output (h : '@' ∉ body) : Tidy (output body) := by
  refine ⟨by simp [output, h], ?_⟩
  rw [output, List.getLast?_append]
  rfl

/-- The key is an identifier, and the value is taken from the expression. -/
theorem noAt_of_keyAndValue (h : '@' ∉ e) (hok : keyAndValue e = .ok (key, value)) :
    '@' ∉ key ∧ '@' ∉ value := by
  obtain ⟨written, rest, rfl, -, hkey, rfl⟩ := keyAndValue_eq_ok hok
  refine ⟨Text.not_mem_of_isIdentifier hkey.isIdentifier (by decide), fun hat ↦ h ?_⟩
  simp [Text.mem_of_mem_trim hat]

/-- A directive that reads a required expression is tidy if what it makes of the expression is. -/
theorem tidy_of_required_bind {expand : Text → Except DirectiveError Text}
    (htidy : ∀ e text, '@' ∉ e → expand e = .ok text → Tidy text) (h : ∀ e ∈ expr, '@' ∉ e)
    (hok : required directive expr >>= expand = .ok text) : Tidy text := by
  obtain ⟨e, rfl, hexpand⟩ := exists_of_required hok
  exact htidy e.trim text (fun hat ↦ h e rfl (Text.mem_of_mem_trim hat)) hexpand

theorem tidy_of_required {expansion : Text → Text} (htidy : ∀ e, '@' ∉ e → Tidy (expansion e))
    (h : ∀ e ∈ expr, '@' ∉ e)
    (hok : (do let e ← required directive expr; return expansion e) = Except.ok text) :
    Tidy text := by
  refine tidy_of_required_bind (fun e text he hreturn ↦ ?_) h hok
  rw [← Except.ok.inj hreturn]
  exact htidy e he

theorem tidy_guarded {value : Text} (h : '@' ∉ value) :
    Tidy (statement ("if ".toList ++ value) ++ output value ++ statement "endif".toList) :=
  ((tidy_statement (by simp [h])).append (tidy_output h)).append (tidy_statement (by decide))

theorem tidy_assignment (hfilter : filter.isIdentifier = true) (h : ∀ e ∈ expr, '@' ∉ e)
    (hok : assignment filter expr = .ok text) : Tidy text := by
  refine tidy_of_required_bind (fun e text he hassigned ↦ ?_) h hok
  cases hpair : keyAndValue e with
  | error fault =>
    rw [hpair] at hassigned
    cases hassigned
  | ok pair =>
    rw [hpair] at hassigned
    cases hassigned
    obtain ⟨hkey, hvalue⟩ := noAt_of_keyAndValue he hpair
    have hname : '@' ∉ filter := Text.not_mem_of_isIdentifier hfilter (by decide)
    exact tidy_statement (by simp [hkey, hvalue, hname])

theorem rules_tidy (hfilter : filter.isIdentifier = true) (h : rule ∈ rules filter) :
    rule.IsTidy := by
  refine Rule.isTidy_of_transform fun expr text hexpr hok ↦ ?_
  have hconstant : ∀ expansion : Text, Tidy expansion →
      constant expansion expr = .ok text → Tidy text := by
    intro expansion htidy hconstant
    cases hconstant
    exact htidy
  simp only [rules, List.mem_cons, List.not_mem_nil, or_false] at h
  rcases h with rfl | rfl | rfl | rfl | rfl | rfl | rfl | rfl | rfl | rfl | rfl
  · exact hconstant _ (tidy_statement (by decide)) hok
  · exact tidy_of_required (fun e he ↦ tidy_statement (by simp [call, he])) hexpr hok
  · exact hconstant _ (tidy_statement (by decide)) hok
  · exact hconstant _ ((tidy_statement (by decide)).append (tidy_output (by decide))) hok
  · exact tidy_of_required (fun e he ↦ tidy_statement (by simp [call, he])) hexpr hok
  · exact hconstant _ (tidy_statement (by decide)) hok
  · exact hconstant _ (tidy_statement (by decide)) hok
  · exact tidy_of_required (fun e he ↦ tidy_guarded (by simp [call, he])) hexpr hok
  · exact tidy_of_required (fun e he ↦ tidy_statement (by simp [call, he])) hexpr hok
  · exact tidy_of_required (fun e he ↦ tidy_guarded (by simp [he])) hexpr hok
  · exact tidy_assignment hfilter hexpr hok

end Builtin

end Directive

end CompiledViews
