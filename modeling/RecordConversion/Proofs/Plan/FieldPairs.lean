import RecordConversion.Proofs.Discovery.Records
import RecordConversion.Proofs.Plan.RecordPairs
import RecordConversion.Proofs.Rule.Decisions

/-!
# The field pairs of a plan

A converter has one conversion for each pair of fields that the two records have in common.  The
fields of discovered records have distinct names, so no field is in two conversions, and the way
back between two records has the same field pairs turned round.

* `Plan.GoesBothWays`: the converters of a plan by direction.
* `Resolver.pairs_reversed_perm`: the field pairs of the way back.
* `Provider.plan_covers_fields_both_ways`: the field pairs of the converters of every plan.
-/

namespace RecordConversion

/-- The field pairs that a converter converts or skips. -/
def Converter.pairs (converter : Converter) : List FieldPair :=
  converter.conversions.map FieldConversion.pair

/-- A field with its type spelled for a namespace. -/
def Provider.respell
    (provider : Provider) (outputPath : String) (field : RecordField) : RecordField :=
  { field with typeText := provider.spell outputPath field.type }

/-- Both fields with their types spelled for a namespace. -/
def Provider.respellPair
    (provider : Provider) (outputPath : String) (pair : FieldPair) : FieldPair :=
  ⟨provider.respell outputPath pair.source, provider.respell outputPath pair.target⟩

theorem Provider.fieldPairs_eq
    (provider : Provider) (outputPath : String) (ignore : List String) (pair : RecordPair) :
    provider.fieldPairs outputPath ignore pair =
      (pairFields pair.source.fields pair.target.fields ignore).map
        (provider.respellPair outputPath) :=
  rfl

namespace Resolver

variable {rules : List Rule} {provider : Provider} {outputPath : String} {request : PlanRequest}
variable {rootName? : Option String} {all : List RecordPair}

/-- A converter has one conversion for each field pair of its records. -/
@[simp]
theorem pairs_converterOf
    (pair : RecordPair) :
    (converterOf rules provider outputPath request rootName? all pair).pairs =
      (pairFields pair.source.fields pair.target.fields request.ignore).map
        (provider.respellPair outputPath) := by
  simp [Converter.pairs, converterOf, Provider.fieldPairs_eq, Function.comp_def]

/-- The field pairs of the way back between two records are those of the way there, turned round. -/
theorem pairs_reversed_perm
    {pair : RecordPair}
    (tidy : pair.source.Tidy provider.declarations)
    (tidy' : pair.target.Tidy provider.declarations)
    {rootName?' : Option String} {all' : List RecordPair} :
    (converterOf rules provider outputPath request rootName?' all' pair.reversed).pairs.Perm
      ((converterOf rules provider outputPath request rootName? all pair).pairs.map
        FieldPair.swap) := by
  have turned : FieldPair.swap ∘ provider.respellPair outputPath =
      provider.respellPair outputPath ∘ FieldPair.swap := rfl
  rw [pairs_converterOf, pairs_converterOf, List.map_map, turned, ← List.map_map]
  exact (pairFields_perm_swap tidy.distinct tidy'.distinct).map _

end Resolver

/-- The field pairs of a converter: no field is in two of them, and they keep the order of the
source. -/
structure Converter.PairsOnce
    (converter : Converter) (provider : Provider) (outputPath : String) : Prop where
  sources_distinct : (converter.pairs.map fun pair => pair.source.matchKey).Nodup
  targets_distinct : (converter.pairs.map fun pair => pair.target.matchKey).Nodup
  sources_in_order :
    (converter.pairs.map FieldPair.source).Sublist
      (converter.source.fields.map (provider.respell outputPath))
  targets_listed :
    ∀ pair ∈ converter.pairs,
      pair.target ∈ converter.target.fields.map (provider.respell outputPath)

theorem Resolver.pairsOnce_converterOf
    {rules : List Rule} {provider : Provider} {outputPath : String} {request : PlanRequest}
    {rootName? : Option String} {all : List RecordPair} {pair : RecordPair}
    (tidy : pair.source.Tidy provider.declarations)
    (tidy' : pair.target.Tidy provider.declarations) :
    (converterOf rules provider outputPath request rootName? all pair).PairsOnce provider
      outputPath where
  sources_distinct := by
    rw [pairs_converterOf, List.map_map]
    exact nodup_source_keys_pairFields tidy.distinct
  targets_distinct := by
    rw [pairs_converterOf, List.map_map]
    exact nodup_target_keys_pairFields tidy.distinct tidy'.distinct
  sources_in_order := by
    have respelled : FieldPair.source ∘ provider.respellPair outputPath =
        provider.respell outputPath ∘ FieldPair.source := rfl
    rw [pairs_converterOf, List.map_map, respelled, ← List.map_map]
    exact (sources_pairFields_sublist _ _ _).map _
  targets_listed := by
    intro fields member
    rw [pairs_converterOf] at member
    obtain ⟨paired, listed, rfl⟩ := List.mem_map.1 member
    exact List.mem_map_of_mem ((mem_pairFields_iff tidy'.distinct).1 listed).2.1

/-! ## The two directions of a plan -/

/-- A pair of different records has one on the way back. -/
theorem reversed_mem_backwardPairs
    {forward : List RecordPair} {pair : RecordPair}
    (member : pair ∈ forward) (different : pair.source.key ≠ pair.target.key) :
    pair.reversed ∈ backwardPairs forward := by
  refine List.mem_map_of_mem (List.mem_filter.2 ⟨member, ?_⟩)
  simpa [Record.sameIdentity] using different

/-- The converters of a plan by direction: the way there between the pairs of what has been
discovered, and the way back between those of different records, turned round. -/
structure Plan.GoesBothWays
    (plan : Plan) (provider : Provider) (request : PlanRequest) (sources targets : List Record)
    (forward backward : List Converter) : Prop where
  from_discovered : (provider.discover request.source).value = .ok sources
  to_discovered : (provider.discover request.target).value = .ok targets
  converters : plan.converters = forward ++ backward
  way_there : forward.map Converter.records = forwardPairs sources targets
  way_back : backward.map Converter.records = backwardPairs (forwardPairs sources targets)
  distinct : (plan.converters.map Converter.keys).Nodup

/-- A plan is made in two passes over the pairs of two discoveries, whose records have fields of
distinct names with the shapes of their types. -/
theorem Provider.exists_passes_of_plan
    {provider : Provider} {request : PlanRequest} {plan : Plan}
    (answered : (provider.plan request).value = .ok plan) :
    ∃ sources targets,
      plan.GoesBothWays provider request sources targets
        ((forwardPairs sources targets).map
          (Resolver.converterOf Rule.standard provider plan.outputPath request request.customName?
            (forwardPairs sources targets)))
        ((backwardPairs (forwardPairs sources targets)).map
          (Resolver.converterOf Rule.standard provider plan.outputPath request none
            (backwardPairs (forwardPairs sources targets)))) ∧
      (∀ pair ∈ forwardPairs sources targets,
        pair.source.Tidy provider.declarations ∧ pair.target.Tidy provider.declarations) := by
  obtain ⟨before, source, before', target, made, _, _, distinct⟩ := exists_roots_of_plan answered
  refine ⟨_, _, ⟨made.from_discovered, made.to_discovered, made.converters, ?_, ?_, ?_⟩, ?_⟩
  · rw [Resolver.records_converterOf]
  · rw [Resolver.records_converterOf]
  · rw [made.converters, List.map_append, Resolver.keys_converterOf, Resolver.keys_converterOf,
      ← List.map_append]
    exact nodup_keys_passes distinct
  · intro pair member
    obtain ⟨from_source, to_target⟩ := records_of_mem_forwardPairs distinct member
    exact ⟨tidy_of_discover made.from_discovered from_source,
      tidy_of_discover made.to_discovered to_target⟩

namespace Provider

variable {provider : Provider} {request : PlanRequest} {plan : Plan}

/-- In every plan the way back between two different records has the field pairs of the way there,
turned round and with the same spellings of types.  In each converter no field is in two
conversions, and the conversions keep the order of the source fields. -/
theorem plan_covers_fields_both_ways
    (answered : (provider.plan request).value = .ok plan) :
    ∃ sources targets forward backward,
      plan.GoesBothWays provider request sources targets forward backward ∧
      (∀ converter ∈ forward, converter.source.key ≠ converter.target.key →
        ∃ back ∈ backward, back.records = converter.records.reversed ∧
          back.pairs.Perm (converter.pairs.map FieldPair.swap)) ∧
      ∀ converter ∈ plan.converters, converter.PairsOnce provider plan.outputPath := by
  obtain ⟨sources, targets, ways, tidy⟩ := exists_passes_of_plan answered
  refine ⟨sources, targets, _, _, ways, ?_, ?_⟩
  · intro converter member different
    obtain ⟨pair, listed, rfl⟩ := List.mem_map.1 member
    obtain ⟨tidy_source, tidy_target⟩ := tidy pair listed
    exact ⟨_, List.mem_map_of_mem (reversed_mem_backwardPairs listed different), rfl,
      Resolver.pairs_reversed_perm tidy_source tidy_target⟩
  · intro converter member
    rw [ways.converters] at member
    rcases List.mem_append.1 member with there | back
    · obtain ⟨pair, listed, rfl⟩ := List.mem_map.1 there
      obtain ⟨tidy_source, tidy_target⟩ := tidy pair listed
      exact Resolver.pairsOnce_converterOf tidy_source tidy_target
    · obtain ⟨pair, listed, rfl⟩ := List.mem_map.1 back
      obtain ⟨turned, kept, rfl⟩ := List.mem_map.1 listed
      obtain ⟨tidy_source, tidy_target⟩ := tidy turned (List.mem_filter.1 kept).1
      exact Resolver.pairsOnce_converterOf tidy_target tidy_source

/-- Cards of an office and of a depot: the fields agree up to the case of their names and stand in
another order, and the depot keeps a note that the office does not have. -/
def cards : Provider where
  declarations :=
    ⟨[(⟨"office", "Card"⟩, ⟨⟨"office", "Card"⟩, .defined (.record
        [⟨"Name", .primitive .string, false, true⟩, ⟨"Id", .primitive .int, false, true⟩]), []⟩),
      (⟨"depot", "Card"⟩, ⟨⟨"depot", "Card"⟩, .defined (.record
        [⟨"ID", .primitive .int, false, true⟩, ⟨"Note", .primitive .string, false, true⟩,
          ⟨"NAME", .primitive .string, false, true⟩]), []⟩)]⟩
  load path := .ok ⟨path, path, none⟩

/-- Each way between the cards takes the two fields that they have in common, in the order of the
card that it reads. -/
theorem plan_covers_fields_both_ways_cards :
    ∃ plan, (cards.plan ⟨"office", "Card", "depot", "Card", none, []⟩).value = .ok plan ∧
      plan.converters.map (fun converter =>
          converter.pairs.map fun pair => (pair.source.name, pair.target.name)) =
        [[("Name", "NAME"), ("Id", "ID")], [("ID", "Id"), ("NAME", "Name")]] ∧
      ∃ sources targets forward backward,
        plan.GoesBothWays cards ⟨"office", "Card", "depot", "Card", none, []⟩ sources targets
          forward backward ∧
        (∀ converter ∈ forward, converter.source.key ≠ converter.target.key →
          ∃ back ∈ backward, back.records = converter.records.reversed ∧
            back.pairs.Perm (converter.pairs.map FieldPair.swap)) ∧
        ∀ converter ∈ plan.converters, converter.PairsOnce cards plan.outputPath := by
  obtain ⟨plan, answered, fields⟩ :
      ∃ plan, (cards.plan ⟨"office", "Card", "depot", "Card", none, []⟩).value = .ok plan ∧
        plan.converters.map (fun converter =>
            converter.pairs.map fun pair => (pair.source.name, pair.target.name)) =
          [[("Name", "NAME"), ("Id", "ID")], [("ID", "Id"), ("NAME", "Name")]] :=
    ⟨_, rfl, rfl⟩
  exact ⟨plan, answered, fields, plan_covers_fields_both_ways answered⟩

end Provider
end RecordConversion
