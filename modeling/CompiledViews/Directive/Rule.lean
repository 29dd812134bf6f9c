import CompiledViews.Directive.Capability
import CompiledViews.Directive.Error

/-!
# Rules

A rule says what a directive becomes. It may be gated: while it is not enabled its occurrences are
still consumed, and become nothing.
-/

namespace CompiledViews.Directive

/-- What a directive of a given name expands to. -/
structure Rule where
  /-- The name, without the leading `@`. -/
  name : Text
  /-- The expansion of an occurrence with this expression, or with none. -/
  transform : Option Text → Except DirectiveError Text
  /-- Whether the rule is active with these capabilities. -/
  enabled : Capabilities → Bool
  /-- Scanning relies on the name being an identifier of ASCII. -/
  name_isIdentifier : name.isIdentifier = true

namespace Rule

/-- A rule that is always enabled. -/
def new (name : Text) (transform : Option Text → Except DirectiveError Text) :
    Except DirectiveError Rule :=
  if h : name.isIdentifier = true then .ok ⟨name, transform, fun _ ↦ true, h⟩
  else .error (.invalidName name)

/-- The rule, enabled only while `condition` holds of the capabilities. -/
def enabledWhen (rule : Rule) (condition : Capabilities → Bool) : Rule :=
  { rule with enabled := condition }

/-- The expansion of one occurrence. A rule that is not enabled does not look at the expression. -/
def apply (rule : Rule) (available : Capabilities) (expr : Option Text) :
    Except DirectiveError Text :=
  if rule.enabled available then rule.transform expr else .ok []

end Rule

end CompiledViews.Directive
