import CompiledViews.Proofs.Directive.Occurrences
import CompiledViews.Proofs.Directive.Unescape
import Mathlib.Data.Finset.Card

/-!
# Rules that replace one another

A registry is a map from names to rules which remembers in what order the names have come. A rule
that is registered under a name that is there changes the value and not the place; so the order of
application is that of the first registrations, whoever replaces what later on.

Calls change a registry in place, rule by rule, and any of the names might be refused on the way. No
name of a built-in rule ever is: registering them fails before the first one or not at all. This is
why a call that fails leaves the registry as it was, and why only what calls register has to be
followed, as one list of rules.
-/

namespace CompiledViews.Directive

/-! ## Calls -/

/-- A call that changes a registry. -/
inductive Change
  /-- A rule is made and registered. -/
  | register (name : Text) (transform : Option Text → Except DirectiveError Text)
    (enabled : Capabilities → Bool)
  | directive (name : Text) (handler : Option Text → Text)
  | builtins (filter : Text)

/-- Something done to a registry in place. -/
abbrev Registry.Action := ExceptT DirectiveError (StateM Registry) Unit

def Registry.registerNew (name : Text) (transform : Option Text → Except DirectiveError Text)
    (enabled : Capabilities → Bool) : Action := do
  let rule ← liftExcept (Rule.new name transform)
  modify (·.register (rule.enabledWhen enabled))

namespace Change

/-- What a call does in place. -/
def run : Change → Registry.Action
  | register name transform enabled => Registry.registerNew name transform enabled
  | directive name handler => Registry.registerNew name (fun expr ↦ .ok (handler expr)) fun _ ↦ true
  | builtins filter => do
    if !filter.isIdentifier then throw (.invalidName filter)
    (Builtin.rules filter).forM fun rule ↦
      Registry.registerNew rule.name rule.transform rule.enabled

/-- What a call makes of a registry, if it succeeds. -/
def apply (registry : Registry) : Change → Except DirectiveError Registry
  | register name transform enabled => do
    return registry.register ((← Rule.new name transform).enabledWhen enabled)
  | directive name handler => registry.directive name handler
  | builtins filter => registry.registerBuiltins filter

/-- The name that a call is for, that of the filter if it is about the built-in rules. -/
def name : Change → Text
  | register name _ _ => name
  | directive name _ => name
  | builtins filter => filter

/-- The rules that a call registers: none if its name is no identifier. -/
def rules : Change → List Rule
  | register name transform enabled =>
    ((Rule.new name transform).toOption.map (·.enabledWhen enabled)).toList
  | directive name handler => (Rule.new name fun expr ↦ .ok (handler expr)).toOption.toList
  | builtins filter => if filter.isIdentifier then Builtin.rules filter else []

/-- A call registers its rules, or its name is refused. -/
theorem apply_eq (change : Change) (registry : Registry) :
    change.apply registry =
      if change.name.isIdentifier then .ok (registry.registerAll change.rules)
      else .error (.invalidName change.name) := by
  cases change with
  | register name transform enabled =>
    rw [apply, rules, Change.name, Rule.new]
    by_cases h : name.isIdentifier = true
    · rw [dif_pos h, if_pos h]
      rfl
    · rw [dif_neg h, if_neg h]
      rfl
  | directive name handler =>
    rw [apply, rules, Change.name, Registry.directive, Rule.new]
    by_cases h : name.isIdentifier = true
    · rw [dif_pos h, if_pos h]
      rfl
    · rw [dif_neg h, if_neg h]
      rfl
  | builtins filter =>
    rw [apply, rules, Change.name, Registry.registerBuiltins]
    cases filter.isIdentifier <;> rfl

theorem rules_of_refused {change : Change} (h : ¬ change.name.isIdentifier = true) :
    change.rules = [] := by
  cases change with
  | register name transform enabled =>
    replace h : ¬ name.isIdentifier = true := h
    rw [rules, Rule.new, dif_neg h]
    rfl
  | directive name handler =>
    replace h : ¬ name.isIdentifier = true := h
    rw [rules, Rule.new, dif_neg h]
    rfl
  | builtins filter => exact if_neg h

end Change

namespace Registry

variable {registry : Registry} {rule : Rule} {name : Text}

/-- The registry after one call after the other, whether they succeed or not. -/
def after (registry : Registry) (changes : List Change) : Registry :=
  changes.foldl (fun registry change ↦ (change.run.run.run registry).2) registry

theorem registerAll_append (registry : Registry) (rules others : List Rule) :
    registry.registerAll (rules ++ others) = (registry.registerAll rules).registerAll others :=
  List.foldl_append

theorem run_registerNew (rule : Rule) (registry : Registry) :
    (registerNew rule.name rule.transform rule.enabled).run.run registry
      = (.ok (), registry.register rule) := by
  rw [registerNew, Rule.new, dif_pos rule.name_isIdentifier]
  rfl

theorem run_forM_registerNew (rules : List Rule) (registry : Registry) :
    (rules.forM fun rule ↦ registerNew rule.name rule.transform rule.enabled).run.run registry
      = (.ok (), registry.registerAll rules) := by
  induction rules generalizing registry with
  | nil => rfl
  | cons rule rest ih =>
    rw [List.forM, ExceptT.run_bind, StateT.run_bind, run_registerNew]
    exact ih (registry.register rule)

/-- A call in place does what the functions on registries do; and if it fails, nothing. -/
theorem run_change (change : Change) (registry : Registry) :
    change.run.run.run registry = match change.apply registry with
      | .ok registry' => (.ok (), registry')
      | .error error => (.error error, registry) := by
  cases change with
  | register name transform enabled =>
    rw [Change.run, Change.apply, registerNew]
    cases Rule.new name transform <;> rfl
  | directive name handler =>
    rw [Change.run, Change.apply, directive, registerNew, Rule.new]
    by_cases h : name.isIdentifier = true
    · rw [dif_pos h]
      rfl
    · rw [dif_neg h]
      rfl
  | builtins filter =>
    rw [Change.run, Change.apply, registerBuiltins]
    cases filter.isIdentifier with
    | true => exact run_forM_registerNew (Builtin.rules filter) registry
    | false => rfl

theorem run_change_eq (change : Change) (registry : Registry) :
    change.run.run.run registry =
      if change.name.isIdentifier then (.ok (), registry.registerAll change.rules)
      else (.error (.invalidName change.name), registry) := by
  rw [run_change, change.apply_eq]
  cases change.name.isIdentifier <;> rfl

/-- Whatever calls are made, a registry has got the rules that they have registered, in order. -/
theorem after_eq (registry : Registry) (changes : List Change) :
    registry.after changes = registry.registerAll (changes.flatMap Change.rules) := by
  induction changes generalizing registry with
  | nil => rfl
  | cons change rest ih =>
    have hstep : (change.run.run.run registry).2 = registry.registerAll change.rules := by
      rw [run_change_eq]
      by_cases h : change.name.isIdentifier = true
      · rw [if_pos h]
      · rw [if_neg h, Change.rules_of_refused h]
        rfl
    calc registry.after (change :: rest)
        = (change.run.run.run registry).2.after rest := rfl
      _ = (registry.registerAll change.rules).registerAll (rest.flatMap Change.rules) := by
        rw [hstep, ih]
      _ = registry.registerAll ((change :: rest).flatMap Change.rules) := by
        rw [List.flatMap_cons, registerAll_append]

/-! ## Names -/

theorem names_register (registry : Registry) (rule : Rule) :
    (registry.register rule).names = if rule.name ∈ registry.names then registry.names
      else registry.names ++ [rule.name] := map_name_place registry.rules rule

theorem names_registerAll_empty (rules : List Rule) :
    (empty.registerAll rules).names = (rules.map (·.name)).eraseDups := by
  induction rules using List.reverseRecOn with
  | nil => rfl
  | append_singleton rules rule ih =>
    have hlast : (empty.registerAll (rules ++ [rule])).names
        = if rule.name ∈ rules.map (·.name) then (rules.map (·.name)).eraseDups
          else (rules.map (·.name)).eraseDups ++ [rule.name] := by
      rw [registerAll_append]
      refine (names_register (empty.registerAll rules) rule).trans ?_
      simp only [ih, List.mem_eraseDups]
    rw [hlast, List.map_append, List.eraseDups_append, List.map_singleton]
    -- what is left of the last name, once the earlier ones are taken out
    by_cases hold : rule.name ∈ rules.map (·.name)
    · have hnone : [rule.name].removeAll (rules.map (·.name)) = [] := by
        simpa [List.removeAll] using hold
      rw [if_pos hold, hnone, List.eraseDups_nil, List.append_nil]
    · have hnew : [rule.name].removeAll (rules.map (·.name)) = [rule.name] := by
        simpa [List.removeAll] using hold
      rw [if_neg hold, hnew]
      rfl

theorem names_prefix_registerAll (registry : Registry) (rules : List Rule) :
    registry.names <+: (registry.registerAll rules).names := by
  induction rules generalizing registry with
  | nil => exact List.prefix_rfl
  | cons rule rest ih =>
    have hfirst : registry.names <+: (registry.register rule).names := by
      rw [names_register]
      split
      · exact List.prefix_rfl
      · exact List.prefix_append _ _
    exact hfirst.trans (ih (registry.register rule))

theorem names_registerAll_of_mem (rules : List Rule)
    (h : ∀ rule ∈ rules, rule.name ∈ registry.names) :
    (registry.registerAll rules).names = registry.names := by
  induction rules generalizing registry with
  | nil => rfl
  | cons rule rest ih =>
    have hfirst : (registry.register rule).names = registry.names := by
      rw [names_register, if_pos (h rule List.mem_cons_self)]
    refine (ih fun other hother ↦ ?_).trans hfirst
    rw [hfirst]
    exact h other (List.mem_cons_of_mem _ hother)

/-! ## The rule of a name -/

theorem find?_place (rules : List Rule) (rule : Rule) (name : Text) :
    (place rule rules).find? (·.name == name)
      = if rule.name = name then some rule else rules.find? (·.name == name) := by
  induction rules with
  | nil => by_cases h : rule.name = name <;> simp [place, h]
  | cons first rest ih =>
    rw [place]
    by_cases hfirst : first.name = rule.name
    · by_cases hname : rule.name = name <;> simp [hfirst, hname]
    · rw [if_neg hfirst, List.find?_cons, List.find?_cons, ih]
      by_cases hname : rule.name = name
      · have hother : (first.name == name) = false := beq_eq_false_iff_ne.mpr (hname ▸ hfirst)
        rw [hother, if_pos hname]
      · rw [if_neg hname, if_neg hname]

/-- The rule of a name is the one that was registered last under it. -/
theorem get?_registerAll (registry : Registry) (rules : List Rule) (name : Text) :
    (registry.registerAll rules).get? name
      = (rules.reverse.find? (·.name == name)).or (registry.get? name) := by
  induction rules using List.reverseRecOn with
  | nil => rfl
  | append_singleton rules rule ih =>
    rw [registerAll_append, List.reverse_append, List.reverse_singleton, List.singleton_append,
      List.find?_cons]
    refine (find?_place (registry.registerAll rules).rules rule name).trans ?_
    by_cases hname : rule.name = name
    · rw [if_pos hname, beq_iff_eq.mpr hname, Option.some_or]
    · rw [if_neg hname, beq_eq_false_iff_ne.mpr hname]
      exact ih

theorem get?_name (h : registry.names.Nodup) (hmem : rule ∈ registry.rules) :
    registry.get? rule.name = some rule := by
  obtain ⟨rules⟩ := registry
  change (rules.map (·.name)).Nodup at h
  change rules.find? (·.name == rule.name) = some rule
  induction rules with
  | nil => cases hmem
  | cons first rest ih =>
    rw [List.map_cons, List.nodup_cons] at h
    rcases List.mem_cons.mp hmem with rfl | hrest
    · exact List.find?_cons_of_pos (beq_self_eq_true rule.name)
    · -- the first rule is not in the way, for its name is not that of a later one
      have hother : first.name ≠ rule.name := by
        intro heq
        apply h.1
        rw [heq]
        exact List.mem_map_of_mem hrest
      rw [List.find?_cons, beq_eq_false_iff_ne.mpr hother]
      exact ih hrest h.2

theorem rules_register_of_mem (h : registry.names.Nodup) (hmem : rule.name ∈ registry.names) :
    (registry.register rule).rules
      = registry.rules.map fun other ↦ if other.name = rule.name then rule else other := by
  obtain ⟨rules⟩ := registry
  change (rules.map (·.name)).Nodup at h
  change rule.name ∈ rules.map (·.name) at hmem
  change place rule rules = rules.map _
  induction rules with
  | nil => cases hmem
  | cons first rest ih =>
    rw [List.map_cons, List.nodup_cons] at h
    rw [place, List.map_cons]
    by_cases hfirst : first.name = rule.name
    · have hrest : ∀ other ∈ rest, (if other.name = rule.name then rule else other) = other := by
        intro other hother
        refine if_neg fun heq ↦ h.1 ?_
        rw [hfirst, ← heq]
        exact List.mem_map_of_mem hother
      rw [if_pos hfirst, if_pos hfirst, List.map_congr_left hrest, List.map_id']
    · rw [if_neg hfirst, if_neg hfirst]
      refine congrArg _ (ih h.2 ?_)
      exact (List.mem_cons.mp hmem).resolve_left (Ne.symm hfirst)

theorem map_name_builtins (filter other : Text) :
    (Builtin.rules filter).map (·.name) = (Builtin.rules other).map (·.name) := rfl

/-! ## Expanding -/

/-- Passes go from name to name: each replaces what is reported of the text that the one before has
left. -/
theorem passes_eq_foldlM {available : Capabilities}
    (transform : Text → Option Text → Except DirectiveError Text) (rules : List Rule)
    (htransform : ∀ rule ∈ rules, transform rule.name = rule.apply available) (source : Text) :
    passes available rules source = (rules.map (·.name)).foldlM
      (fun text name ↦ spliced name (transform name) text) source := by
  induction rules generalizing source with
  | nil => rfl
  | cons rule rest ih =>
    have hrule : transform rule.name = rule.apply available :=
      htransform rule List.mem_cons_self
    rw [passes, List.map_cons, List.foldlM_cons, hrule, spliced_eq_pass]
    congr 1
    funext text
    apply ih
    intro other hother
    exact htransform other (List.mem_cons_of_mem rule hother)

theorem unescapeAll_names (h : registry.names.Nodup) (text : Text) :
    unescapeAll registry.names text = (undouble registry.names text.runs).flatten := by
  have hidentifiers : ∀ name ∈ registry.names, name.isIdentifier = true :=
    fun _ ↦ isIdentifier_of_mem_names
  rw [unescapeAll_eq_foldl hidentifiers, foldl_unescape hidentifiers h]

/-! ## Ordered maps -/

def lastRule? (registered : List Rule) (name : Text) : Option Rule :=
  registered.reverse.find? (·.name == name)

/-- What the rule that was registered last under a name makes of an expression. -/
def applyLast (registered : List Rule) (available : Capabilities) (name : Text)
    (expr : Option Text) : Except DirectiveError Text :=
  (lastRule? registered name).elim (.error (.unknown name)) (·.apply available expr)

/-- The registry is an ordered map of these rules, each put under its name: a name is where it came
first and has the rule that came last. Expanding goes through the names in this order; for each of
them, every occurrence in what is left of the source is replaced by what that rule makes of its
expression. -/
structure OrderedMapOf (registry : Registry) (registered : List Rule) : Prop where
  names_eq : registry.names = (registered.map (·.name)).eraseDups
  nodup : registry.names.Nodup
  isIdentifier : ∀ name ∈ registry.names, name.isIdentifier = true
  size_eq : registry.size = (registered.map (·.name)).toFinset.card
  get?_eq : ∀ name, registry.get? name = lastRule? registered name
  expandOne_eq : ∀ available name expr,
    registry.expandOne available name expr = applyLast registered available name expr
  expand_eq : ∀ available source, registry.expand available source =
    ((registered.map (·.name)).eraseDups.foldlM
      (fun text name ↦ spliced name (applyLast registered available name) text) source).map
        fun text ↦ (undouble (registered.map (·.name)).eraseDups text.runs).flatten

theorem orderedMapOf_registerAll (registered : List Rule) :
    (empty.registerAll registered).OrderedMapOf registered := by
  have hnames := names_registerAll_empty registered
  have hempty : empty.names.Nodup := List.nodup_nil
  have hnodup : (empty.registerAll registered).names.Nodup := nodup_registerAll hempty registered
  have hget (name : Text) : (empty.registerAll registered).get? name
      = lastRule? registered name := by
    rw [get?_registerAll]
    exact Option.or_none
  refine ⟨hnames, hnodup, fun _ ↦ isIdentifier_of_mem_names, ?_, hget, ?_, ?_⟩
  · have hmem : (empty.registerAll registered).names.toFinset
        = (registered.map (·.name)).toFinset := by
      ext name
      rw [hnames, List.mem_toFinset, List.mem_toFinset, List.mem_eraseDups]
    rw [← hmem, List.toFinset_card_of_nodup hnodup, names, List.length_map, size]
  · intro available name expr
    rw [expandOne, hget, applyLast]
    cases lastRule? registered name <;> rfl
  · intro available source
    have hlast : ∀ rule ∈ (empty.registerAll registered).rules,
        applyLast registered available rule.name = rule.apply available := by
      intro rule hrule
      funext expr
      rw [applyLast, ← hget, get?_name hnodup hrule, Option.elim_some]
    rw [expand, passes_eq_foldlM (applyLast registered available) _ hlast, ← hnames]
    exact congrArg (Except.map · _) (funext (unescapeAll_names hnodup))

/-- After any calls, successful or not, a registry is the ordered map of what the successful ones
have registered. A call that fails leaves the registry as it is, places are kept for good, and
registering the built-in rules again or a rule over another one moves nothing. -/
theorem after_orderedMap (changes : List Change) :
    let registry := empty.after changes
    registry.OrderedMapOf (changes.flatMap Change.rules)
    ∧ (∀ change : Change, change.run.run.run registry =
        if change.name.isIdentifier then (.ok (), registry.registerAll change.rules)
        else (.error (.invalidName change.name), registry))
    ∧ (∀ later, registry.names <+: (registry.after later).names)
    ∧ (∀ filter filter', .builtins filter ∈ changes → filter.isIdentifier = true →
        ((Change.builtins filter').run.run.run registry).2.names = registry.names)
    ∧ ∀ rule : Rule, rule.name ∈ registry.names →
        (registry.register rule).names = registry.names
        ∧ (registry.register rule).rules = registry.rules.map fun other ↦
          if other.name = rule.name then rule else other := by
  intro registry
  have hmap : registry.OrderedMapOf (changes.flatMap Change.rules) := by
    have hregistry : registry = empty.registerAll (changes.flatMap Change.rules) :=
      after_eq empty changes
    rw [hregistry]
    exact orderedMapOf_registerAll _
  refine ⟨hmap, fun change ↦ run_change_eq change registry, fun later ↦ ?_,
    fun filter filter' hmem hfilter ↦ ?_, fun rule hrule ↦
    ⟨?_, rules_register_of_mem hmap.nodup hrule⟩⟩
  · rw [after_eq]
    exact names_prefix_registerAll registry _
  · -- the built-in rules have the same names for every filter, and they are all there
    have hnames : ∀ rule ∈ Builtin.rules filter', rule.name ∈ registry.names := by
      intro rule hrule
      have hname : rule.name ∈ (Builtin.rules filter).map (·.name) := by
        rw [map_name_builtins filter filter']
        exact List.mem_map_of_mem hrule
      obtain ⟨other, hother, heq⟩ := List.mem_map.mp hname
      have hregistered : other ∈ changes.flatMap Change.rules := by
        refine List.mem_flatMap.mpr ⟨_, hmem, ?_⟩
        rwa [Change.rules, if_pos hfilter]
      rw [hmap.names_eq, List.mem_eraseDups, ← heq]
      exact List.mem_map_of_mem hregistered
    rw [run_change_eq]
    by_cases h : (Change.builtins filter').name.isIdentifier = true
    · have hrules : (Change.builtins filter').rules = Builtin.rules filter' := if_pos h
      rw [if_pos h, hrules]
      exact names_registerAll_of_mem _ hnames
    · rw [if_neg h]
  · rw [names_register, if_pos hrule]

/-- Built-in rules, a refused call and a host's rule over a built-in one, which is what expanding
uses; registering the built-in rules for another filter, and a host's rule once more, keeps all
eleven names in place. -/
theorem after_orderedMap_builtins :
    let changes := [.builtins "sanitize".toList, .builtins "a b".toList,
      .register "wpend".toList (fun _ ↦ .ok ['!']) fun _ ↦ true]
    let host : Rule := ⟨"wpend".toList, fun _ ↦ .ok ['?'], fun _ ↦ true, by decide⟩
    let registry := empty.after changes
    registry.size = 11
    ∧ (registry.expand .none "@wpend (1), @@wpend".toList).toOption = some "!, @wpend".toList
    ∧ ((Change.builtins "e".toList).run.run.run registry).2.names = registry.names
    ∧ (registry.register host).names = registry.names := by
  intro changes host registry
  obtain ⟨hmap, -, -, hbuiltins, hregister⟩ := after_orderedMap changes
  refine ⟨hmap.size_eq.trans (by decide), ?_,
    hbuiltins "sanitize".toList "e".toList List.mem_cons_self (by decide),
    (hregister host (by decide)).1⟩
  rw [hmap.expand_eq]
  decide +kernel

/-- A host's rule comes first and a refused name changes nothing; a host's rule over a built-in one
stands where that stood, and so do the built-in rules that are registered again. -/
example :
    let changes := [.directive "note".toList fun _ ↦ [], .directive "9".toList fun _ ↦ [],
      .builtins "sanitize".toList, .directive "wpend".toList fun _ ↦ ['!'],
      .builtins "a b".toList, .builtins "e".toList]
    (empty.after changes).names
      = "note".toList :: (Builtin.rules []).map (·.name) := by decide

end Registry

end CompiledViews.Directive
