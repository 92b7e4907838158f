import RecordConversion.Resolver

/-!
# What a resolver answers

The conversion of a field pair is that of the first rule that gives one.  A batch replaces the
record pairs of the resolver and leaves its rules alone, so nothing is left of earlier batches.

* `Resolver.firstRule?_eq_some_iff`: which rule decides.
* `Resolver.resolve_value`: the conversions of a batch depend on the rules and on the batch alone.
-/

namespace RecordConversion

namespace Resolver

variable {provider : Provider} {pairs : PairSet} {pair : FieldPair}

/-- The rule that decides is looked for in the order of the rules. -/
theorem firstRule?_eq_findSome?
    (rules : List Rule) :
    firstRule? provider pairs pair rules =
      rules.findSome? fun rule =>
        (rule.conversion? provider pairs pair).map fun conversion => (rule, conversion) := by
  induction rules with
  | nil => rfl
  | cons rule rest ih =>
      cases answer : rule.conversion? provider pairs pair with
      | some conversion => simp [firstRule?, answer]
      | none => simp [firstRule?, answer, ih]

/-- The rule that decides gives the conversion, and none before it gives any. -/
theorem firstRule?_eq_some_iff
    {rules : List Rule} {rule : Rule} {conversion : FieldConversion} :
    firstRule? provider pairs pair rules = some (rule, conversion) ↔
      ∃ before after, rules = before ++ rule :: after ∧
        rule.conversion? provider pairs pair = some conversion ∧
          ∀ other ∈ before, other.conversion? provider pairs pair = none := by
  rw [firstRule?_eq_findSome?, List.findSome?_eq_some_iff]
  constructor
  · rintro ⟨before, decider, after, shape, given, passed⟩
    obtain ⟨found, answer, same⟩ := Option.map_eq_some_iff.1 given
    cases same
    exact ⟨before, after, shape, answer, by simpa using passed⟩
  · rintro ⟨before, after, shape, answer, passed⟩
    exact ⟨before, rule, after, shape, by simp [answer], by simpa using passed⟩

/-- No rule decides exactly if none gives a conversion. -/
theorem firstRule?_eq_none_iff
    {rules : List Rule} :
    firstRule? provider pairs pair rules = none ↔
      ∀ rule ∈ rules, rule.conversion? provider pairs pair = none := by
  simp [firstRule?_eq_findSome?]

/-- A conversion that is not skipped is given by some rule. -/
theorem exists_rule_of_resolveField
    {resolver : Resolver}
    (converted : (resolver.resolveField provider pair).value.strategy ≠ .skip) :
    ∃ rule ∈ resolver.rules,
      rule.conversion? provider resolver.pairs pair =
        some (resolver.resolveField provider pair).value := by
  cases decided : firstRule? provider resolver.pairs pair resolver.rules with
  | none => simp [resolveField, decided, Logged.quiet, FieldConversion.skipped] at converted
  | some answer =>
      obtain ⟨rule, conversion⟩ := answer
      obtain ⟨before, after, shape, given, _⟩ := firstRule?_eq_some_iff.1 decided
      refine ⟨rule, by simp [shape], ?_⟩
      simpa [resolveField, decided] using given

/-- The conversions of a batch, by the rules of the resolver and the record pairs of the batch. -/
theorem resolve_value
    (resolver : Resolver) (fields : List FieldPair) (records : List RecordPair) :
    (resolver.resolve provider fields records).1.value =
      fields.map fun fields => ((resolver.rebuild records).resolveField provider fields).value := by
  simp [resolve]

@[simp]
theorem resolve_rules
    (resolver : Resolver) (fields : List FieldPair) (records : List RecordPair) :
    (resolver.resolve provider fields records).2.rules = resolver.rules :=
  rfl

end Resolver
end RecordConversion
