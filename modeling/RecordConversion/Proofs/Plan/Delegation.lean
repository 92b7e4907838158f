import RecordConversion.Proofs.Plan.Passes
import RecordConversion.Proofs.Rule.Delegation

/-!
# Delegation inside a plan

A converter that leaves records to another converter finds it in the plan, in its own direction.
The pairs of a pass are at once the set by which the rules decide to delegate and the list of the
converters that are made, and both sides derive the name from the identities of the pair.

* `Resolver.exists_pair_of_delegates`: the pair behind a delegation is one of the pass.
* `Provider.exists_callee_of_delegates`: in a plan without a name of its own for the root converter,
  every call of a converter goes to one in the plan, between the records that the fields refer to.
-/

namespace RecordConversion

namespace Resolver

variable {provider : Provider} {request : PlanRequest}

/-- A conversion that delegates calls the converter of a pair of the pass, and the records of the
pair are those that the two fields refer to. -/
theorem exists_pair_of_delegates
    {outputPath : String} {rootName? : Option String} {all : List RecordPair} {pair : RecordPair}
    {conversion : FieldConversion}
    (member : conversion ∈
      (converterOf Rule.standard provider outputPath request rootName? all pair).conversions)
    (delegates : conversion.strategy.delegates = true) :
    ∃ callee ∈ all,
      conversion.source.shape.nestedRecord? = some callee.source.key ∧
      conversion.target.shape.nestedRecord? = some callee.target.key ∧
      conversion.pair.Calls (converterName callee.source.key callee.target.key)
        conversion.expression := by
  obtain ⟨fields, _, rfl⟩ := List.mem_map.1 member
  have converted :
      (resolveField ⟨Rule.standard, .ofPairs all⟩ provider fields).value.strategy ≠ .skip := by
    intro skipped
    rw [skipped] at delegates
    cases delegates
  obtain ⟨rule, standard, given⟩ := exists_rule_of_resolveField converted
  obtain ⟨source, target, contained, from_record, to_record, call⟩ :=
    Rule.exists_call standard given delegates
  obtain ⟨callee, listed, keys⟩ := (PairSet.contains_ofPairs all source target).1 contained
  cases keys
  exact ⟨callee, listed, from_record, to_record, call⟩

/-- In a pass without a name of its own for the root converter, every call of a converter goes to
one of the pass. -/
theorem exists_callee
    {outputPath : String} {all : List RecordPair} :
    ∀ converter ∈ all.map (converterOf Rule.standard provider outputPath request none all),
      ∀ conversion ∈ converter.conversions, conversion.strategy.delegates = true →
        ∃ callee ∈ all.map (converterOf Rule.standard provider outputPath request none all),
          conversion.source.shape.nestedRecord? = some callee.source.key ∧
          conversion.target.shape.nestedRecord? = some callee.target.key ∧
          conversion.pair.Calls callee.functionName conversion.expression := by
  intro converter made conversion member delegates
  obtain ⟨pair, _, rfl⟩ := List.mem_map.1 made
  obtain ⟨callee, listed, from_record, to_record, call⟩ := exists_pair_of_delegates member delegates
  exact ⟨_, List.mem_map_of_mem listed, from_record, to_record, call⟩

end Resolver

namespace Provider

variable {provider : Provider} {request : PlanRequest}

/-- Where the root converter is not given a name, every statement of a plan that leaves records to a
converter calls one in the plan, in the same direction, between the two records that the fields
refer to.  The way back has the converters of the first direction turned round, those between
different records. -/
theorem exists_callee_of_delegates
    {plan : Plan}
    (unnamed : request.customName? = none)
    (answered : (provider.plan request).value = .ok plan) :
    ∃ forward backward : List Converter,
      plan.converters = forward ++ backward ∧
      backward.map Converter.keys =
        ((forward.map Converter.keys).filter fun keys => keys.1 ≠ keys.2).map Prod.swap ∧
      ∀ direction ∈ [forward, backward], ∀ converter ∈ direction,
        ∀ conversion ∈ converter.conversions, conversion.strategy.delegates = true →
          ∃ callee ∈ direction,
            conversion.source.shape.nestedRecord? = some callee.source.key ∧
            conversion.target.shape.nestedRecord? = some callee.target.key ∧
            conversion.pair.Calls callee.functionName conversion.expression := by
  obtain ⟨sources, targets, made⟩ := Resolver.exists_madeFrom answered
  have converters := made.converters
  rw [unnamed] at converters
  refine ⟨_, _, converters, ?_, ?_⟩
  · rw [Resolver.keys_converterOf, Resolver.keys_converterOf, keys_backwardPairs]
  · intro direction member
    simp only [List.mem_cons, List.not_mem_nil, or_false] at member
    rcases member with rfl | rfl
    · exact Resolver.exists_callee
    · exact Resolver.exists_callee

/-- Orders of an office and of a depot, with lines and buyers on each side; the sides differ in
where they put pointers. -/
def trade : Provider where
  declarations :=
    ⟨[(⟨"office", "Order"⟩, ⟨⟨"office", "Order"⟩, .defined (.record
        [⟨"Lines", .slice (.named ⟨"office", "Line"⟩), false, true⟩,
          ⟨"Buyer", .pointer (.named ⟨"office", "Buyer"⟩), false, true⟩]), []⟩),
      (⟨"office", "Line"⟩, ⟨⟨"office", "Line"⟩, .defined (.record
        [⟨"Count", .primitive .int, false, true⟩]), []⟩),
      (⟨"office", "Buyer"⟩, ⟨⟨"office", "Buyer"⟩, .defined (.record
        [⟨"Orders", .slice (.pointer (.named ⟨"office", "Order"⟩)), false, true⟩]), []⟩),
      (⟨"depot", "Order"⟩, ⟨⟨"depot", "Order"⟩, .defined (.record
        [⟨"Lines", .slice (.pointer (.named ⟨"depot", "Line"⟩)), false, true⟩,
          ⟨"Buyer", .named ⟨"depot", "Buyer"⟩, false, true⟩]), []⟩),
      (⟨"depot", "Line"⟩, ⟨⟨"depot", "Line"⟩, .defined (.record
        [⟨"Count", .primitive .int, false, true⟩]), []⟩),
      (⟨"depot", "Buyer"⟩, ⟨⟨"depot", "Buyer"⟩, .defined (.record
        [⟨"Orders", .slice (.pointer (.named ⟨"depot", "Order"⟩)), false, true⟩]), []⟩)]⟩
  load path := .ok ⟨path, path, none⟩

/-- The orders of the office are to become orders of the depot. -/
def tradeRequest : PlanRequest :=
  ⟨"office", "Order", "depot", "Order", none, []⟩

/-- The plan between office and depot delegates in four converters, each time to one of its own. -/
theorem exists_callee_of_delegates_trade :
    tradeRequest.customName? = none ∧
    ∃ plan, (trade.plan tradeRequest).value = .ok plan ∧
      plan.converters.map (fun converter => converter.conversions.map (·.strategy)) =
        [[.nestedSliceConvert, .nestedStructPointerConvert], [.nestedSliceConvert], [.directAssign],
          [.nestedSliceConvert, .nestedStructPointerConvert], [.nestedSliceConvert],
          [.directAssign]] ∧
      ∃ forward backward : List Converter, plan.converters = forward ++ backward ∧
        ∀ direction ∈ [forward, backward], ∀ converter ∈ direction,
          ∀ conversion ∈ converter.conversions, conversion.strategy.delegates = true →
            ∃ callee ∈ direction,
              conversion.source.shape.nestedRecord? = some callee.source.key ∧
              conversion.target.shape.nestedRecord? = some callee.target.key ∧
              conversion.pair.Calls callee.functionName conversion.expression := by
  have unnamed : tradeRequest.customName? = none := rfl
  obtain ⟨plan, answered, strategies⟩ :
      ∃ plan, (trade.plan tradeRequest).value = .ok plan ∧
        plan.converters.map (fun converter => converter.conversions.map (·.strategy)) =
          [[.nestedSliceConvert, .nestedStructPointerConvert], [.nestedSliceConvert],
            [.directAssign], [.nestedSliceConvert, .nestedStructPointerConvert],
            [.nestedSliceConvert], [.directAssign]] :=
    ⟨_, rfl, rfl⟩
  obtain ⟨forward, backward, split, _, called⟩ := exists_callee_of_delegates unnamed answered
  exact ⟨unnamed, plan, answered, strategies, forward, backward, split, called⟩

end Provider
end RecordConversion
