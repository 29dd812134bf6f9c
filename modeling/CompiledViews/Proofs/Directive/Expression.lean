import CompiledViews.Directive.Builtin
import CompiledViews.Proofs.Failing
import CompiledViews.Proofs.Text.Cutting

/-!
# What the built-in directives take from an expression

A directive that needs an expression takes it without the blanks around it. One that sets a variable
takes it apart at the first comma, into a key, which is a name in quotes, and a value.
-/

namespace CompiledViews.Directive.Builtin

variable {directive name value s t e : Text} {expr : Option Text} {quote : Char}

theorem exists_of_required {expand : Text → Except DirectiveError Text}
    (h : required directive expr >>= expand = .ok t) :
    ∃ e, expr = some e ∧ expand e.trim = .ok t := by
  obtain ⟨taken, hrequired, hexpand⟩ := bind_eq_ok_iff.mp h
  cases expr with
  | none => cases hrequired
  | some e =>
    rw [required, Option.map_some] at hrequired
    split at hrequired
    · next c cs htrim =>
      cases hrequired
      rw [Option.some.injEq] at htrim
      exact ⟨e, rfl, by rwa [htrim]⟩
    · cases hrequired

theorem between?_eq_some (h : between? quote t = some s) : t = quote :: (s ++ [quote]) := by
  rw [between?.eq_def] at h
  split at h
  · cases h
  · split at h
    · next hc => rw [hc, Text.dropEnding?_eq_some_iff.mp h]
    · cases h

/-- Whether a text is a name in quotes, up to blanks. -/
structure IsKey (t name : Text) : Prop where
  isIdentifier : name.isIdentifier = true
  quoted : ∃ quote, (quote = '\'' ∨ quote = '"') ∧ t.trim = quote :: (name ++ [quote])

theorem keyAndValue_eq_ok (h : keyAndValue e = .ok (name, value)) :
    ∃ key rest : Text, e = key ++ ',' :: rest ∧ ',' ∉ key ∧ IsKey key name ∧
      value = rest.trim := by
  rw [keyAndValue] at h
  split at h
  · cases h
  · next key rest hsplit =>
    obtain ⟨heq, hcomma⟩ := Text.splitOnce?_eq_some hsplit
    split at h
    · cases h
    · next found hfound =>
      split at h
      · next hname =>
        split at h
        · cases h
        · cases h
          refine ⟨key, rest, heq, hcomma, ⟨hname, ?_⟩, rfl⟩
          rcases Option.or_eq_some_iff.mp hfound with hsingle | ⟨-, hdouble⟩
          · exact ⟨'\'', .inl rfl, between?_eq_some hsingle⟩
          · exact ⟨'"', .inr rfl, between?_eq_some hdouble⟩
      · cases h

end CompiledViews.Directive.Builtin
