import RecordConversion.Proofs.Plan.FieldPairs
import RecordConversion.Proofs.Rule.Duality

/-!
# Delegation on the way back

What a converter leaves to another one, its way back leaves to the way back of that one, by the same
strategy.  The exception are fields of one and the same record on both sides: the way there has a
converter of the record to itself, the way back has none.

* `Provider.delegates_wayBack`: the two passes on one field pair.
* `Catalog.plan_delegates_back`: the two directions of every plan.
-/

namespace RecordConversion

/-- The way back has the pairs of the way there that are of two records, turned round. -/
theorem exists_backwardPairs_iff
    {forward : List RecordPair} {a b : QualifiedName} :
    (∃ known ∈ backwardPairs forward, known.keys = (b, a)) ↔
      a ≠ b ∧ ∃ known ∈ forward, known.keys = (a, b) := by
  have keys := congrArg (fun pairs => (b, a) ∈ pairs) (keys_backwardPairs forward)
  simp only [List.mem_map, List.mem_filter, decide_eq_true_eq, eq_iff_iff] at keys
  rw [keys]
  constructor
  · rintro ⟨⟨a', b'⟩, ⟨paired, different⟩, same⟩
    cases same
    exact ⟨different, paired⟩
  · rintro ⟨different, paired⟩
    exact ⟨(a, b), ⟨paired, different⟩, rfl⟩

namespace Provider

variable {provider : Provider} {pair : FieldPair} {forward : List RecordPair} {strategy : Strategy}

/-- What the way there leaves to a converter of two records the way back leaves to the converter
back, and nothing if it is one record on both sides. -/
theorem delegates_wayBack
    (declared : provider.FollowsDeclarations)
    (delegates : strategy.delegates = true)
    (delegated : provider.strategy forward pair = strategy) :
    ∃ a b, pair.source.shape.nestedRecord? = some a ∧ pair.target.shape.nestedRecord? = some b ∧
      (a ≠ b → provider.strategy (backwardPairs forward) pair.swap = strategy) ∧
      (a = b → (provider.strategy (backwardPairs forward) pair.swap).delegates = false) := by
  obtain ⟨unlikened, unboxed, a, b, delegable, paired⟩ :=
    (strategy_eq_iff_of_delegates delegates).1 delegated
  refine ⟨a, b, delegable.source_refers, delegable.target_refers, ?_, ?_⟩
  · intro different
    exact (strategy_eq_iff_of_delegates delegates).2
      ⟨(not_likens_swap_iff declared).1 unlikened, unboxed.symm, b, a, delegable.swap,
        exists_backwardPairs_iff.2 ⟨different, paired⟩⟩
  · intro same
    rw [← Bool.not_eq_true]
    intro returned
    obtain ⟨_, _, b', a', delegable', paired'⟩ :=
      (strategy_eq_iff_of_delegates returned).1 rfl
    obtain ⟨rfl, rfl⟩ := delegable.swap.unique delegable'
    exact (exists_backwardPairs_iff.1 paired').1 same

end Provider

/-- The conversions of a converter have the strategies that the pairs of its pass choose. -/
theorem Resolver.strategy_of_mem_conversions
    {provider : Provider} {outputPath : String} {request : PlanRequest}
    {rootName? : Option String} {all : List RecordPair} {pair : RecordPair}
    {conversion : FieldConversion}
    (member : conversion ∈
      (converterOf Rule.standard provider outputPath request rootName? all pair).conversions) :
    conversion.strategy = provider.strategy all conversion.pair := by
  obtain ⟨fields, _, rfl⟩ := List.mem_map.1 member
  rw [pair_resolveField]
  rfl

namespace Catalog

variable {catalog : Catalog} {request : PlanRequest} {plan : Plan}

/-- A catalog leaves the relations between types to its declarations. -/
theorem followsDeclarations
    (catalog : Catalog) :
    catalog.provider.FollowsDeclarations :=
  ⟨rfl, rfl⟩

/-- In every plan, what a converter between two different records leaves to a converter comes back
by the same strategy in the converter back, unless both fields refer to one and the same record;
then the field on the way back is not left to any converter. -/
theorem plan_delegates_back
    (answered : (catalog.provider.plan request).value = .ok plan) :
    ∃ sources targets forward backward,
      plan.GoesBothWays catalog.provider request sources targets forward backward ∧
      ∀ converter ∈ forward, converter.source.key ≠ converter.target.key →
        ∃ back ∈ backward, back.records = converter.records.reversed ∧
          ∀ conversion ∈ converter.conversions, conversion.strategy.delegates = true →
            ∃ source target,
              conversion.source.shape.nestedRecord? = some source ∧
              conversion.target.shape.nestedRecord? = some target ∧
              ∃ returned ∈ back.conversions, returned.pair = conversion.pair.swap ∧
                (source ≠ target → returned.strategy = conversion.strategy) ∧
                (source = target → returned.strategy.delegates = false) := by
  obtain ⟨sources, targets, ways, tidy⟩ := Provider.exists_passes_of_plan answered
  refine ⟨sources, targets, _, _, ways, ?_⟩
  intro converter member different
  obtain ⟨pair, listed, rfl⟩ := List.mem_map.1 member
  obtain ⟨tidy_source, tidy_target⟩ := tidy pair listed
  refine ⟨_, List.mem_map_of_mem (reversed_mem_backwardPairs listed different), rfl, ?_⟩
  intro conversion converts delegates
  have strategy := Resolver.strategy_of_mem_conversions converts
  obtain ⟨a, b, from_record, to_record, apart, shared⟩ :=
    Provider.delegates_wayBack catalog.followsDeclarations delegates strategy.symm
  have turned :
      conversion.pair.swap ∈
        (Resolver.converterOf Rule.standard catalog.provider plan.outputPath request none
          (backwardPairs (forwardPairs sources targets)) pair.reversed).pairs :=
    (Resolver.pairs_reversed_perm tidy_source tidy_target).mem_iff.2
      (List.mem_map_of_mem (List.mem_map_of_mem converts))
  obtain ⟨returned, converts_back, same⟩ := List.mem_map.1 turned
  have strategy' := Resolver.strategy_of_mem_conversions converts_back
  rw [same] at strategy'
  rw [← strategy'] at apart shared
  exact ⟨a, b, from_record, to_record, returned, converts_back, same, apart, shared⟩

/-- Orders of two namespaces with items of the given types.  Each namespace has a record of items,
and so has a third one that both can use. -/
def orders (from_items to_items : HostType) : Catalog :=
  let item (path : String) : String × Declaration :=
    ("Item", ⟨⟨path, "Item"⟩, .defined (.record [⟨"ID", .primitive .int, false, true⟩]), []⟩)
  let order (path : String) (items : HostType) : String × Declaration :=
    ("Order", ⟨⟨path, "Order"⟩, .defined (.record [⟨"Items", items, false, true⟩]), []⟩)
  ((builtin.extend ⟨"app/m", "m", some "app"⟩
      (Keyed.ofList [order "app/m" from_items, item "app/m"])).extend
    ⟨"app/d", "d", some "app"⟩ (Keyed.ofList [order "app/d" to_items, item "app/d"])).extend
    ⟨"app/shared", "shared", some "app"⟩ (Keyed.ofList [item "app/shared"])

/-- The orders of the first namespace are to become orders of the second. -/
def ordersRequest : PlanRequest :=
  ⟨"app/m", "Order", "app/d", "Order", none, []⟩

/-- Items of the two namespaces are left to a converter in both directions. -/
theorem plan_delegates_back_items :
    ∃ plan,
      ((orders (.slice (.named ⟨"app/m", "Item"⟩))
        (.slice (.pointer (.named ⟨"app/d", "Item"⟩)))).provider.plan ordersRequest).value =
          .ok plan ∧
      plan.converters.map (fun converter => converter.conversions.map (·.strategy)) =
        [[.nestedSliceConvert], [.directAssign], [.nestedSliceConvert], [.directAssign]] ∧
      ∃ forward backward : List Converter, plan.converters = forward ++ backward ∧
        ∀ converter ∈ forward, converter.source.key ≠ converter.target.key →
          ∃ back ∈ backward, back.records = converter.records.reversed ∧
            ∀ conversion ∈ converter.conversions, conversion.strategy.delegates = true →
              ∃ source target,
                conversion.source.shape.nestedRecord? = some source ∧
                conversion.target.shape.nestedRecord? = some target ∧
                ∃ returned ∈ back.conversions, returned.pair = conversion.pair.swap ∧
                  (source ≠ target → returned.strategy = conversion.strategy) ∧
                  (source = target → returned.strategy.delegates = false) := by
  obtain ⟨plan, answered, strategies⟩ :
      ∃ plan,
        ((orders (.slice (.named ⟨"app/m", "Item"⟩))
          (.slice (.pointer (.named ⟨"app/d", "Item"⟩)))).provider.plan ordersRequest).value =
            .ok plan ∧
        plan.converters.map (fun converter => converter.conversions.map (·.strategy)) =
          [[.nestedSliceConvert], [.directAssign], [.nestedSliceConvert], [.directAssign]] :=
    ⟨_, rfl, rfl⟩
  obtain ⟨_, _, forward, backward, ways, returned⟩ := plan_delegates_back answered
  exact ⟨plan, answered, strategies, forward, backward, ways.converters, returned⟩

/-- Items that both namespaces share are left to a converter on the way there, from slices to slices
of pointers, and skipped on the way back. -/
theorem shared_items_skipped_back :
    ∃ plan sources targets forward backward,
      ((orders (.slice (.named ⟨"app/shared", "Item"⟩))
        (.slice (.pointer (.named ⟨"app/shared", "Item"⟩)))).provider.plan ordersRequest).value =
          .ok plan ∧
      plan.GoesBothWays
        (orders (.slice (.named ⟨"app/shared", "Item"⟩))
          (.slice (.pointer (.named ⟨"app/shared", "Item"⟩)))).provider
        ordersRequest sources targets forward backward ∧
      ∃ converter ∈ forward, converter.source.key ≠ converter.target.key ∧
        ∃ back ∈ backward, back.records = converter.records.reversed ∧
          ∃ conversion ∈ converter.conversions, conversion.strategy = .nestedSliceConvert ∧
            ∃ returned, back.conversions = [returned] ∧ returned.pair = conversion.pair.swap ∧
              returned.strategy = .skip := by
  refine ⟨_, _, _, _, _, rfl, ⟨rfl, rfl, (List.take_append_drop 2 _).symm, rfl, rfl, ?_⟩, _,
    .head _, ?_, _, .head _, rfl, _, .head _, rfl, _, rfl, rfl, rfl⟩
  · decide
  · decide

end Catalog
end RecordConversion
