import RecordConversion.Proofs.Declarations.ReferredRecords
import RecordConversion.Proofs.Plan.WayBack

/-!
# Delegation between records of one name

Fields that refer to two discovered records of one name are left to a converter, and never cast or
skipped, as long as the name has one target.  Where several targets have it, only the last of them
has a converter, and a field of any other is not delegated.  Types that are taken for each other
come before any converter; between two different records that needs a spelling that both share.

* `exists_forwardPairs_iff`: the pair of two records of one name.
* `Provider.spelledAlike_of_likens`: records whose types are taken for each other.
* `Catalog.plan_delegates_same_names_iff`: the fields of every plan that refer to records of one
  name.
-/

namespace RecordConversion

/-! ## Pairs of one name -/

section Pairs

variable {before before' : List Record} {source target a b : Record}

/-- Two discovered records of one name have a pair exactly if the target is the last one of that
name. -/
theorem exists_forwardPairs_iff
    (distinct : ((before ++ [source]).map Record.key).Nodup)
    (distinct' : ((before' ++ [target]).map Record.key).Nodup)
    (from_listed : a ∈ before ++ [source]) (to_listed : b ∈ before' ++ [target])
    (same : a.name = b.name) :
    (∃ known ∈ forwardPairs (before ++ [source]) (before' ++ [target]),
        known.keys = (a.key, b.key)) ↔
      (before' ++ [target]).findRev? (fun other => other.name == a.name) = some b := by
  constructor
  · rintro ⟨known, member, keys⟩
    obtain ⟨from_key, to_key⟩ := Prod.mk.inj keys
    obtain ⟨known_source, known_target⟩ := records_of_mem_forwardPairs distinct member
    obtain rfl := List.inj_on_of_nodup_map distinct known_source from_listed from_key
    obtain rfl := List.inj_on_of_nodup_map distinct' known_target to_listed to_key
    exact (mem_pairRecords_iff.1
      (mem_pairRecords_of_mem_forwardPairs distinct member same.symm)).2
  · intro last
    exact ⟨⟨a, b⟩, mem_forwardPairs_of_mem_pairRecords distinct
      (mem_pairRecords_iff.2 ⟨from_listed, last⟩), rfl⟩

end Pairs

/-! ## What comes before delegation -/

/-- A nullable record does not have the name of its payload, so neither has a pointer to it. -/
theorem Shape.Delegable.not_boxes
    {source target : Shape} {a b : QualifiedName} {strategy : Strategy}
    (delegable : source.Delegable target a b strategy) (same : a.name = b.name) :
    ¬ source.Boxes target := by
  intro boxes
  have names : ∀ nullable ∈ Nullable.all, nullable.ref.name ≠ "Time" := by decide
  rcases boxes.payload_cases with basic | time
  · exact delegable.swap.source_not_basic basic
  · obtain ⟨nullable, found, _⟩ := boxes
    obtain ⟨ref, named, listed⟩ := Option.bind_eq_some_iff.1 found
    have own : ref = a := Option.some.inj
      ((nestedRecord?_of_recordRef? named).symm.trans delegable.source_refers)
    have to_time : (⟨"time", "Time"⟩ : QualifiedName) = b := Option.some.inj
      ((nestedRecord?_of_recordRef? (beq_iff_eq.1 time)).symm.trans
        delegable.target_refers)
    have key : nullable.ref = ref := by simpa using List.find?_some listed
    apply names nullable (List.mem_of_find?_eq_some listed)
    rw [key, own, same, ← to_time]

namespace Provider

variable {provider : Provider} {a b : QualifiedName}

/-- Types that lead to different records are taken for each other only if some types that lead to
the records are spelled alike. -/
theorem spelledAlike_of_likens
    (declared : provider.FollowsDeclarations) {source target : HostType}
    (leads : provider.declarations.LeadsTo source a)
    (leads' : provider.declarations.LeadsTo target b) (different : a ≠ b)
    (likens : provider.Likens source target) :
    provider.declarations.SpelledAlike a b := by
  have spelled {x y : HostType}
      (leads : provider.declarations.LeadsTo x a) (leads' : provider.declarations.LeadsTo y b)
      (alike : provider.alike x y = true) :
      provider.declarations.SpelledAlike a b := by
    rw [Provider.alike, Bool.or_eq_true, beq_iff_eq, declared.identical] at alike
    rcases alike with identical | text
    · exact Declarations.spelledAlike_of_identical leads leads' different identical
    · exact ⟨x, y, leads, leads', text⟩
  rcases likens with alike | ⟨pointee, points, _, alike⟩ | ⟨pointee, _, points, alike⟩
  · exact spelled leads leads' alike
  · rw [pointerTarget?_eq_some_iff] at points
    exact spelled (leads.inner (by rw [points]; rfl)) leads' alike
  · rw [pointerTarget?_eq_some_iff] at points
    exact spelled leads (leads'.inner (by rw [points]; rfl)) alike

end Provider

/-- The fields of a conversion have the shapes of their types. -/
theorem Resolver.classified_of_mem_conversions
    {provider : Provider} {outputPath : String} {request : PlanRequest}
    {rootName? : Option String} {all : List RecordPair} {pair : RecordPair}
    {conversion : FieldConversion}
    (tidy : pair.source.Tidy provider.declarations)
    (tidy' : pair.target.Tidy provider.declarations)
    (member : conversion ∈
      (converterOf Rule.standard provider outputPath request rootName? all pair).conversions) :
    conversion.pair.Classified provider.declarations := by
  obtain ⟨respelled, listed, rfl⟩ := List.mem_map.1 member
  rw [Provider.fieldPairs_eq] at listed
  obtain ⟨fields, paired, rfl⟩ := List.mem_map.1 listed
  obtain ⟨from_source, to_target, _⟩ := (mem_pairFields_iff tidy'.distinct).1 paired
  have source_shape := tidy.classified fields.source from_source
  have target_shape := tidy'.classified fields.target to_target
  rw [pair_resolveField]
  exact ⟨source_shape, target_shape⟩

namespace Catalog

variable {catalog : Catalog} {request : PlanRequest} {plan : Plan}

/-- In every plan, a field pair of the way there that refers to two different records of one name is
left to a converter exactly if the target is the last discovered one of that name and the types are
not taken for each other.  These are taken for each other only if some types that lead to the two
records are spelled alike. -/
theorem plan_delegates_same_names_iff
    (answered : (catalog.provider.plan request).value = .ok plan) :
    ∃ sources targets forward backward,
      plan.GoesBothWays catalog.provider request sources targets forward backward ∧
      ∀ converter ∈ forward, ∀ conversion ∈ converter.conversions,
        ∀ a ∈ sources, ∀ b ∈ targets, a.name = b.name → a.key ≠ b.key →
          ∀ strategy,
            conversion.source.shape.Delegable conversion.target.shape a.key b.key strategy →
            (conversion.strategy = strategy ↔
              targets.findRev? (fun other => other.name == a.name) = some b ∧
                ¬ catalog.provider.Likens conversion.source.type conversion.target.type) ∧
            (catalog.provider.Likens conversion.source.type conversion.target.type →
              catalog.table.SpelledAlike a.key b.key) := by
  obtain ⟨sources, targets, ways, tidy⟩ := Provider.exists_passes_of_plan answered
  refine ⟨sources, targets, _, _, ways, ?_⟩
  intro converter member conversion converts a from_listed b to_listed same different strategy
    delegable
  obtain ⟨pair, listed, rfl⟩ := List.mem_map.1 member
  obtain ⟨tidy_source, tidy_target⟩ := tidy pair listed
  have classified := Resolver.classified_of_mem_conversions tidy_source tidy_target converts
  constructor
  · obtain ⟨before, source, _, rfl, distinct⟩ :=
      Provider.exists_root_of_discover ways.from_discovered
    obtain ⟨before', target, _, rfl, distinct'⟩ :=
      Provider.exists_root_of_discover ways.to_discovered
    rw [← exists_forwardPairs_iff distinct distinct' from_listed to_listed same,
      Resolver.strategy_of_mem_conversions converts,
      Provider.strategy_eq_iff_of_delegates delegable.delegates]
    constructor
    · rintro ⟨unlikened, _, a', b', delegable', paired⟩
      obtain ⟨rfl, rfl⟩ := delegable.unique delegable'
      exact ⟨paired, unlikened⟩
    · rintro ⟨paired, unlikened⟩
      exact ⟨unlikened, ⟨delegable.not_boxes same, delegable.swap.not_boxes same.symm⟩, _, _,
        delegable, paired⟩
  · intro likens
    have leads := Declarations.leadsTo_of_nestedRecord? classified.isShapeOf_source
      delegable.source_refers
    have leads' := Declarations.leadsTo_of_nestedRecord? classified.isShapeOf_target
      delegable.target_refers
    exact Provider.spelledAlike_of_likens catalog.followsDeclarations leads leads' different likens

/-- Orders of one item in two namespaces, and items of former times in a third one, to which the
orders of the second may have further fields. -/
def stock (further : List Field) : Catalog :=
  let item (path : String) (id : Primitive) : String × Declaration :=
    ("Item", ⟨⟨path, "Item"⟩, .defined (.record [⟨"ID", .primitive id, false, true⟩]), []⟩)
  let order (path : String) (further : List Field) : String × Declaration :=
    ("Order", ⟨⟨path, "Order"⟩,
      .defined (.record (⟨"Item", .named ⟨path, "Item"⟩, false, true⟩ :: further)), []⟩)
  ((builtin.extend ⟨"app/m", "m", some "app"⟩
      (Keyed.ofList [order "app/m" [], item "app/m" .int])).extend
    ⟨"app/d", "d", some "app"⟩
      (Keyed.ofList [order "app/d" further, item "app/d" .int64])).extend
    ⟨"app/d/old", "old", some "app"⟩ (Keyed.ofList [item "app/d/old" .int64])

/-- Where each name has one target, the item of an order is left to a converter. -/
theorem plan_delegates_same_names_iff_stock :
    ∃ plan, ((stock []).provider.plan ordersRequest).value = .ok plan ∧
      plan.converters.map (fun converter => converter.conversions.map (·.strategy)) =
        [[.nestedStructConvert], [.basicCast], [.nestedStructConvert], [.basicCast]] ∧
      ∃ sources targets forward backward,
        plan.GoesBothWays (stock []).provider ordersRequest sources targets forward backward ∧
        ∀ converter ∈ forward, ∀ conversion ∈ converter.conversions,
          ∀ a ∈ sources, ∀ b ∈ targets, a.name = b.name → a.key ≠ b.key →
            ∀ strategy,
              conversion.source.shape.Delegable conversion.target.shape a.key b.key strategy →
              (conversion.strategy = strategy ↔
                targets.findRev? (fun other => other.name == a.name) = some b ∧
                  ¬ (stock []).provider.Likens conversion.source.type conversion.target.type) ∧
              ((stock []).provider.Likens conversion.source.type conversion.target.type →
                (stock []).table.SpelledAlike a.key b.key) := by
  obtain ⟨plan, answered, strategies⟩ :
      ∃ plan, ((stock []).provider.plan ordersRequest).value = .ok plan ∧
        plan.converters.map (fun converter => converter.conversions.map (·.strategy)) =
          [[.nestedStructConvert], [.basicCast], [.nestedStructConvert], [.basicCast]] :=
    ⟨_, rfl, rfl⟩
  exact ⟨plan, answered, strategies, plan_delegates_same_names_iff answered⟩

/-- Where the target order also has a field of a former item, that one takes the name, and the
present item is skipped. -/
theorem shadowed_item_skipped :
    ∃ plan sources targets forward backward,
      ((stock [⟨"Old", .named ⟨"app/d/old", "Item"⟩, false, true⟩]).provider.plan
        ordersRequest).value = .ok plan ∧
      plan.GoesBothWays (stock [⟨"Old", .named ⟨"app/d/old", "Item"⟩, false, true⟩]).provider
        ordersRequest sources targets forward backward ∧
      ∃ converter ∈ forward, ∃ conversion ∈ converter.conversions,
        ∃ a ∈ sources, ∃ b ∈ targets, a.name = b.name ∧ a.key ≠ b.key ∧
          conversion.source.shape.Delegable conversion.target.shape a.key b.key
            .nestedStructConvert ∧
          conversion.strategy = .skip := by
  refine ⟨_, _, _, _, _, rfl, ⟨rfl, rfl, (List.take_append_drop 2 _).symm, rfl, rfl, ?_⟩, _,
    .head _, _, .head _, _, .head _, _, .head _, rfl, ?_, ?_, rfl⟩
  · decide
  · decide
  · exact @Shape.Delegable.single _ _ _ _ false false rfl rfl

end Catalog
end RecordConversion
