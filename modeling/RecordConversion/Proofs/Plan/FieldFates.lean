import RecordConversion.Proofs.Plan.FieldPairs

/-!
# What becomes of a field in a plan

A converter is made between two records that have been built, from the pairs of their fields.  A
field of either record is therefore in one of three cases: its name is ignored, the other record has
no field of its name, or the converter has a conversion of it; and a conversion that is skipped is
listed with the plan.

* `Provider.accountsFor_of_plan`: there is no further case.
-/

namespace RecordConversion

namespace Side

/-- The other side. -/
def opposite : Side → Side
  | source => target
  | target => source

/-- The record of a pair on a side. -/
def record : Side → RecordPair → Record
  | source, pair => pair.source
  | target, pair => pair.target

/-- The field of a pair on a side. -/
def field : Side → FieldPair → RecordField
  | source, pair => pair.source
  | target, pair => pair.target

end Side

/-- A plan accounts for a field on one side of a converter: its name is ignored, the other record
has no field of its name, or there is a conversion of it, which is listed if it is skipped. -/
def Plan.AccountsFor
    (plan : Plan) (provider : Provider) (request : PlanRequest) (converter : Converter)
    (side : Side)
    (field : RecordField) : Prop :=
  field.matchKey ∈ ignoredKeys request.ignore ∨
    (∀ other ∈ (side.opposite.record converter.records).fields,
      other.matchKey ≠ field.matchKey) ∨
    ∃ conversion ∈ converter.conversions,
      side.field conversion.pair = provider.respell plan.outputPath field ∧
        (conversion.isSkip = true →
          SkippedField.ofConversion converter.functionName conversion ∈ plan.skipped)

/-! ## The list of skipped fields -/

namespace Provider

variable {provider : Provider} {request : PlanRequest} {plan : Plan}

theorem mem_skipped_of_plan
    (answered : (provider.plan request).value = .ok plan)
    {converter : Converter} (member : converter ∈ plan.converters)
    {conversion : FieldConversion} (here : conversion ∈ converter.conversions)
    (skipped : conversion.isSkip = true) :
    SkippedField.ofConversion converter.functionName conversion ∈ plan.skipped := by
  rw [Resolver.skipped_of_plan answered, List.mem_flatMap]
  exact ⟨converter, member, List.mem_map_of_mem (List.mem_filter.2 ⟨here, skipped⟩)⟩

/-! ## The records of a converter -/

/-- The record is that of some name. -/
def Builds (provider : Provider) (record : Record) : Prop :=
  ∃ ref, provider.record? ref = .ok record

/-- Every converter of a plan is made between two records that have been built. -/
theorem exists_converterOf_of_plan
    (answered : (provider.plan request).value = .ok plan)
    {converter : Converter} (member : converter ∈ plan.converters) :
    (∃ rootName? all, converter =
      Resolver.converterOf Rule.standard provider plan.outputPath request rootName? all
        converter.records) ∧
      ∀ side : Side, provider.Builds (side.record converter.records) := by
  obtain ⟨before, source, before', target, made, _, _, distinct⟩ := exists_roots_of_plan answered
  have built {pair : RecordPair}
      (listed : pair ∈ forwardPairs (before ++ [source]) (before' ++ [target])) (side : Side) :
      provider.Builds (side.record pair) := by
    obtain ⟨from_source, to_target⟩ := records_of_mem_forwardPairs distinct listed
    cases side with
    | source => exact exists_built_of_discover made.from_discovered from_source
    | target => exact exists_built_of_discover made.to_discovered to_target
  rw [made.converters] at member
  rcases List.mem_append.1 member with there | back
  · obtain ⟨pair, listed, rfl⟩ := List.mem_map.1 there
    exact ⟨⟨_, _, rfl⟩, built listed⟩
  · obtain ⟨_, turned, rfl⟩ := List.mem_map.1 back
    obtain ⟨pair, kept, rfl⟩ := List.mem_map.1 turned
    have both := built (List.mem_filter.1 kept).1
    refine ⟨⟨_, _, rfl⟩, fun side => ?_⟩
    cases side with
    | source => exact both .target
    | target => exact both .source

/-- The records of a converter are those of their names. -/
theorem record?_of_plan
    (asked : provider.LoadsAsAsked)
    (answered : (provider.plan request).value = .ok plan)
    {converter : Converter} (member : converter ∈ plan.converters) (side : Side) :
    provider.record? (side.record converter.records).key =
      .ok (side.record converter.records) := by
  obtain ⟨ref, found⟩ := (exists_converterOf_of_plan answered member).2 side
  rw [key_of_record? asked found, found]

/-! ## The three cases -/

/-- Every plan accounts for every field of the records of its converters. -/
theorem accountsFor_of_plan
    (answered : (provider.plan request).value = .ok plan)
    {converter : Converter} (member : converter ∈ plan.converters) (side : Side)
    {field : RecordField} (here : field ∈ (side.record converter.records).fields) :
    plan.AccountsFor provider request converter side field := by
  obtain ⟨⟨rootName?, all, shape⟩, built⟩ := exists_converterOf_of_plan answered member
  obtain ⟨_, built_target⟩ := built .target
  have distinct := (tidy_of_record? built_target).distinct
  by_cases ignored : field.matchKey ∈ ignoredKeys request.ignore
  · exact .inl ignored
  by_cases unmatched : ∀ other ∈ (side.opposite.record converter.records).fields,
      other.matchKey ≠ field.matchKey
  · exact .inr (.inl unmatched)
  obtain ⟨other, there, same⟩ :
      ∃ other ∈ (side.opposite.record converter.records).fields,
        other.matchKey = field.matchKey := by
    simpa using unmatched
  obtain ⟨pair, paired, on_side⟩ :
      ∃ pair ∈ pairFields converter.source.fields converter.target.fields request.ignore,
        side.field pair = field := by
    cases side with
    | source =>
        exact ⟨⟨field, other⟩, (mem_pairFields_iff distinct).2 ⟨here, there, same, ignored⟩, rfl⟩
    | target =>
        exact ⟨⟨other, field⟩,
          (mem_pairFields_iff distinct).2 ⟨there, here, same.symm, same ▸ ignored⟩, rfl⟩
  have converted : provider.respellPair plan.outputPath pair ∈ converter.pairs := by
    rw [shape, Resolver.pairs_converterOf]
    exact List.mem_map_of_mem paired
  obtain ⟨conversion, listed, of_pair⟩ := List.mem_map.1 converted
  refine .inr (.inr ⟨conversion, listed, ?_, mem_skipped_of_plan answered member listed⟩)
  rw [of_pair, ← on_side]
  cases side <;> rfl

end Provider
end RecordConversion
