import RecordConversion.Proofs.Catalog.Lookup
import RecordConversion.Proofs.Declarations.SelfMentions
import RecordConversion.Proofs.Discovery.AliasRoot
import RecordConversion.Proofs.Plan.SameNames

/-!
# Plans from an alias of a record

A plan from an alias of a record has the field pairs of the plan from the record, and the same
strategies as long as these do not leave the two roots themselves to the root converter.  A field
refers to the record by the name of the record, but the root pair goes by the name of the alias.  So
where a field leads back to the roots, their pair is one of the plan only if the record and the
target have one name.

* `exists_keys_forwardPairs_iff`: between which records the first pass has a converter.
* `Provider.strategy_alias`: the strategies among the pairs of an alias.
* `Catalog.plan_from_alias`: the root converters of the two plans.
-/

namespace RecordConversion

/-- The two fields refer to two records, through any pointers and slices. -/
def FieldPair.RefersTo
    (pair : FieldPair) (a b : QualifiedName) : Prop :=
  pair.source.shape.nestedRecord? = some a ∧ pair.target.shape.nestedRecord? = some b

/-- The conversion leaves two records to their converter. -/
def FieldConversion.DelegatesTo
    (conversion : FieldConversion) (a b : QualifiedName) : Prop :=
  conversion.strategy.delegates = true ∧ conversion.pair.RefersTo a b

/-! ## Pairs of the first pass -/

section Pairs

variable {before before' : List Record} {source target : Record} {a b : QualifiedName}

/-- Two records have a pair exactly if they are the roots, or the first has been found and the
second is the last one found of its name. -/
theorem exists_keys_forwardPairs_iff
    (distinct : ((before ++ [source]).map Record.key).Nodup) :
    (∃ known ∈ forwardPairs (before ++ [source]) (before' ++ [target]), known.keys = (a, b)) ↔
      (a = source.key ∧ b = target.key) ∨
        a ∈ (before ++ [source]).map Record.key ∧
          ∃ last, (before' ++ [target]).findRev? (fun other => other.name == a.name) = some last ∧
            last.key = b := by
  constructor
  · rintro ⟨known, member, keys⟩
    obtain ⟨rfl, rfl⟩ := Prod.mk.inj keys
    rw [forwardPairs_eq distinct] at member
    rcases List.mem_cons.1 member with rfl | member
    · exact .inl ⟨rfl, rfl⟩
    · obtain ⟨listed, found⟩ := mem_pairRecords_iff.1 (List.mem_filter.1 member).1
      exact .inr ⟨List.mem_map_of_mem listed, known.target, found, rfl⟩
  · rintro (⟨rfl, rfl⟩ | ⟨listed, last, found, rfl⟩)
    · refine ⟨⟨source, target⟩, ?_, rfl⟩
      rw [forwardPairs_eq distinct]
      exact List.mem_cons_self
    · obtain ⟨record, member, rfl⟩ := List.mem_map.1 listed
      exact ⟨⟨record, last⟩, mem_forwardPairs_of_mem_pairRecords distinct
        (mem_pairRecords_iff.2 ⟨member, found⟩), rfl⟩

/-! ## The pairs of an alias -/

variable {others : List Record} {synonym : Record}

/-- Two lists of discovered records agree but for their roots. -/
def AgreeButForRoots
    (before others : List Record) (source synonym : Record) : Prop :=
  ∀ key, key ≠ source.key → key ≠ synonym.key →
    (key ∈ (others ++ [synonym]).map Record.key ↔ key ∈ (before ++ [source]).map Record.key)

variable (distinct : ((before ++ [source]).map Record.key).Nodup)
variable (distinct' : ((others ++ [synonym]).map Record.key).Nodup)
variable (agree : AgreeButForRoots before others source synonym)

include distinct distinct' agree in
/-- A pair from an alias is one from the record, unless it is that of the alias itself. -/
theorem exists_pair_of_alias
    (other : a ≠ synonym.key)
    (paired : ∃ known ∈ forwardPairs (others ++ [synonym]) (before' ++ [target]),
      known.keys = (a, b)) :
    ∃ known ∈ forwardPairs (before ++ [source]) (before' ++ [target]), known.keys = (a, b) := by
  rw [exists_keys_forwardPairs_iff distinct'] at paired
  rw [exists_keys_forwardPairs_iff distinct]
  obtain ⟨listed, last⟩ := paired.resolve_left fun root => other root.1
  refine .inr ⟨?_, last⟩
  by_cases own : a = source.key
  · simp [own]
  · exact (agree a own other).1 listed

include distinct distinct' agree in
/-- A pair from a record is one from its alias, unless it is that of roots of two names. -/
theorem exists_alias_pair_or
    (other : a ≠ synonym.key)
    (back : a = source.key → a ∈ (others ++ [synonym]).map Record.key)
    (paired : ∃ known ∈ forwardPairs (before ++ [source]) (before' ++ [target]),
      known.keys = (a, b)) :
    (∃ known ∈ forwardPairs (others ++ [synonym]) (before' ++ [target]), known.keys = (a, b)) ∨
      a = source.key ∧ b = target.key ∧ source.name ≠ target.name := by
  rw [exists_keys_forwardPairs_iff distinct] at paired
  rw [exists_keys_forwardPairs_iff distinct']
  by_cases own : a = source.key
  · rcases paired with ⟨_, rfl⟩ | ⟨_, last⟩
    · by_cases same : target.name = source.name
      · have last : (target.name == a.name) = true := by simp [own, Record.key, same]
        exact .inl (.inr ⟨back own, target, findRev?_concat last, rfl⟩)
      · exact .inr ⟨own, rfl, Ne.symm same⟩
    · exact .inl (.inr ⟨back own, last⟩)
  · obtain ⟨listed, last⟩ := paired.resolve_left fun root => own root.1
    exact .inl (.inr ⟨(agree a own other).2 listed, last⟩)

include distinct' in
/-- The roots have a pair from an alias only if they have one name. -/
theorem name_eq_of_alias_pair
    (other : source.key ≠ synonym.key)
    (paired : ∃ known ∈ forwardPairs (others ++ [synonym]) (before' ++ [target]),
      known.keys = (source.key, target.key)) :
    source.name = target.name := by
  rw [exists_keys_forwardPairs_iff distinct'] at paired
  obtain ⟨_, last, found, key⟩ := paired.resolve_left fun root => other root.1
  have named : last.name = source.name := by
    simpa [Record.key] using (findRev?_eq_some_iff.1 found).1
  exact named.symm.trans (congrArg QualifiedName.name key)

/-! ## Strategies among the pairs of an alias -/

variable {provider : Provider} {pair : FieldPair}

include distinct' in
/-- Among the pairs of an alias a field pair is not delegated if it refers to roots of two names. -/
theorem Provider.not_delegates_of_alias
    (other : source.key ≠ synonym.key)
    (refers : pair.RefersTo source.key target.key)
    (differ : source.name ≠ target.name) :
    (provider.strategy (forwardPairs (others ++ [synonym]) (before' ++ [target]))
      pair).delegates = false := by
  rw [← Bool.not_eq_true]
  intro delegates
  obtain ⟨_, _, a, b, delegable, paired⟩ := (strategy_eq_iff_of_delegates delegates).1 rfl
  obtain rfl := Option.some.inj (refers.1.symm.trans delegable.source_refers)
  obtain rfl := Option.some.inj (refers.2.symm.trans delegable.target_refers)
  exact differ (name_eq_of_alias_pair distinct' other paired)

include distinct distinct' agree in
/-- Among the pairs of an alias a field pair has the strategy that it has among those of the record,
unless that one leaves roots of two names to their converter. -/
theorem Provider.strategy_alias
    (elsewhere : pair.source.shape.nestedRecord? ≠ some synonym.key)
    (back : pair.source.shape.nestedRecord? = some source.key →
      source.key ∈ (others ++ [synonym]).map Record.key)
    (kept : ¬ (((provider.strategy (forwardPairs (before ++ [source]) (before' ++ [target]))
        pair).delegates = true ∧ pair.RefersTo source.key target.key) ∧
      source.name ≠ target.name)) :
    provider.strategy (forwardPairs (others ++ [synonym]) (before' ++ [target])) pair =
      provider.strategy (forwardPairs (before ++ [source]) (before' ++ [target])) pair := by
  have fewer : ∀ a b strategy, pair.source.shape.Delegable pair.target.shape a b strategy →
      (∃ known ∈ forwardPairs (others ++ [synonym]) (before' ++ [target]), known.keys = (a, b)) →
      ∃ known ∈ forwardPairs (before ++ [source]) (before' ++ [target]), known.keys = (a, b) := by
    intro a b strategy delegable
    refine exists_pair_of_alias distinct distinct' agree ?_
    rintro rfl
    exact elsewhere delegable.source_refers
  rcases strategy_eq_or_of_fewer fewer with same | ⟨delegates, _⟩
  · exact same
  · obtain ⟨unlikened, unboxed, a, b, delegable, paired⟩ :=
      (strategy_eq_iff_of_delegates delegates).1 rfl
    have from_record := delegable.source_refers
    have away : a ≠ synonym.key := by
      rintro rfl
      exact elsewhere from_record
    have found : a = source.key → a ∈ (others ++ [synonym]).map Record.key := by
      rintro rfl
      exact back from_record
    rcases exists_alias_pair_or distinct distinct' agree away found paired with
      paired' | ⟨rfl, rfl, differ⟩
    · exact (strategy_eq_iff_of_delegates delegates).2
        ⟨unlikened, unboxed, a, b, delegable, paired'⟩
    · exact absurd ⟨⟨delegates, from_record, delegable.target_refers⟩, differ⟩ kept

end Pairs

/-! ## What the fields of a root refer to -/

theorem Shape.path_of_nestedRecord?
    {shape : Shape} {ref : QualifiedName} (refers : shape.nestedRecord? = some ref) :
    ref.path.isEmpty = false := by
  induction shape with
  | basic | map | interface | other => cases refers
  | pointer element home display ih => exact ih refers
  | slice element home display ih => exact ih refers
  | record home name display =>
      rw [nestedRecord?, recordRef?] at refers
      split at refers
      · cases refers
      · next some_name =>
          obtain rfl := Option.some.inj refers
          simp at some_name
          simpa using some_name.1

theorem Declarations.LeadsTo.aliasTarget?_eq_none
    {table : Declarations} {type : HostType} {ref : QualifiedName}
    (leads : table.LeadsTo type ref) :
    table.aliasTarget? (.named ref) = none := by
  induction leads with
  | itself stands _ => exact stands.no_alias
  | through _ _ _ ih => exact ih

namespace Provider

variable {provider : Provider} {module? : Option String} {ref synonym : QualifiedName}
variable {record : Record} {field : RecordField}

/-- No field refers to an alias. -/
theorem nestedRecord?_ne_alias
    (tidy : record.Tidy provider.declarations) (here : field ∈ record.fields)
    (names : provider.declarations.AliasOf synonym ref) :
    field.shape.nestedRecord? ≠ some synonym := by
  intro refers
  have seen : provider.declarations.IsShapeOf field.shape field.type := by
    rw [tidy.classified field here]
    exact Declarations.isShapeOf_shapeOf field.type
  exact names.is_alias (Declarations.leadsTo_of_nestedRecord? seen refers).aliasTarget?_eq_none

/-- A record with a field that leads back to it refers to itself. -/
theorem refers_self
    (asked : provider.LoadsAsAsked)
    (built : provider.record? ref = .ok record) (here : field ∈ record.fields)
    (refers : field.shape.nestedRecord? = some ref) :
    provider.Refers module? ref ref := by
  refine ⟨record, built, field, here, refers, ?_⟩
  have path : record.path = ref.path := congrArg QualifiedName.path (key_of_record? asked built)
  simp [inBoundary, path, Shape.path_of_nestedRecord? refers]

end Provider

/-! ## Root converters -/

/-- A plan begins with the converter between its roots, each of them the last record of a
discovery. -/
structure Plan.RootedAt
    (plan : Plan) (provider : Provider) (request : PlanRequest) (root : Converter)
    (before before' : List Record) : Prop where
  first : plan.converters.head? = some root
  from_discovered : (provider.discover request.source).value = .ok (before ++ [root.source])
  to_discovered : (provider.discover request.target).value = .ok (before' ++ [root.target])
  source_built : provider.record? request.source = .ok root.source
  target_built : provider.record? request.target = .ok root.target
  distinct : ((before ++ [root.source]).map Record.key).Nodup
  conversions :
    root.conversions =
      (provider.fieldPairs request.sourcePath request.ignore root.records).map fun pair =>
        ((Resolver.standard.rebuild (forwardPairs (before ++ [root.source])
          (before' ++ [root.target]))).resolveField provider pair).value

namespace Provider

variable {provider : Provider} {request : PlanRequest} {plan : Plan}

theorem exists_rootedAt
    (asked : provider.LoadsAsAsked)
    (answered : (provider.plan request).value = .ok plan) :
    ∃ root before before', plan.RootedAt provider request root before before' := by
  obtain ⟨sources, targets, from_discovered, to_discovered, between⟩ :=
    Resolver.exists_discovered_of_plan answered
  obtain ⟨before, source, source_built, rfl, distinct⟩ := exists_root_of_discover from_discovered
  obtain ⟨before', target, target_built, rfl, _⟩ := exists_root_of_discover to_discovered
  have path : source.path = request.sourcePath :=
    congrArg QualifiedName.path (key_of_record? asked source_built)
  have output : plan.outputPath = request.sourcePath := by
    simp [Resolver.outputPath_of_planBetween between, path]
  have begins : (forwardPairs (before ++ [source]) (before' ++ [target])).head? =
      some ⟨source, target⟩ := by
    rw [forwardPairs_eq distinct, List.head?_cons]
  refine ⟨Resolver.converterOf Rule.standard provider request.sourcePath request
    request.customName? (forwardPairs (before ++ [source]) (before' ++ [target])) ⟨source, target⟩,
    before, before', ?_, from_discovered, to_discovered, source_built, target_built, distinct, rfl⟩
  rw [Resolver.converters_of_planBetween between, List.head?_append, List.head?_map, begins, output]
  rfl

/-- The source of a field pair is a field of the first record, spelled for a namespace. -/
theorem exists_source_of_mem_fieldPairs
    {outputPath : String} {ignore : List String} {records : RecordPair} {pair : FieldPair}
    (listed : pair ∈ provider.fieldPairs outputPath ignore records) :
    ∃ field ∈ records.source.fields, pair.source = provider.respell outputPath field := by
  rw [fieldPairs_eq] at listed
  obtain ⟨fields, paired, rfl⟩ := List.mem_map.1 listed
  exact ⟨fields.source,
    (sources_pairFields_sublist _ _ _).subset (List.mem_map_of_mem paired), rfl⟩

end Provider

/-! ## From an alias -/

/-- What a conversion from an alias has to do with the one from the record: it is of the same field
pair, and of the same strategy unless that one leaves the roots to their converter and these are of
two names, in which case it is not delegated. -/
structure FieldConversion.FollowedBy
    (request : PlanRequest) (direct via : FieldConversion) : Prop where
  pair : via.pair = direct.pair
  kept :
    ¬ (direct.DelegatesTo request.source request.target ∧
      request.sourceType ≠ request.targetType) →
        via.strategy = direct.strategy
  lost :
    direct.DelegatesTo request.source request.target →
      request.sourceType ≠ request.targetType → via.strategy.delegates = false

namespace Provider

section Alias

variable {provider : Provider} {request : PlanRequest} {synonym : String} {plan other : Plan}
variable {root via : Converter} {before before' others others' : List Record}
variable (asked : provider.LoadsAsAsked)
variable (names :
  provider.declarations.AliasOf ⟨request.sourcePath, synonym⟩ request.source)
variable (rooted : plan.RootedAt provider request root before before')
variable (rooted' :
  other.RootedAt provider { request with sourceType := synonym } via others others')
include asked names rooted rooted'

/-- The roots of the two plans are one record under two names, and one target. -/
theorem roots_of_alias :
    via.source = { root.source with name := synonym } ∧ via.target = root.target ∧
      others' = before' := by
  have renamed := record?_alias asked names rooted.source_built
  have targets := Except.ok.inj (rooted'.to_discovered.symm.trans rooted.to_discovered)
  obtain ⟨same, last⟩ := List.append_inj' targets rfl
  exact ⟨Except.ok.inj (rooted'.source_built.symm.trans renamed), List.singleton_inj.1 last, same⟩

theorem agree_of_alias :
    AgreeButForRoots before others root.source via.source := by
  intro key away away'
  rw [key_of_record? asked rooted.source_built] at away
  rw [key_of_record? asked rooted'.source_built] at away'
  obtain ⟨space, loaded⟩ := exists_load_of_discover rooted.from_discovered
  rw [mem_keys_of_discover asked loaded rooted.from_discovered,
    mem_keys_of_discover asked (names.path ▸ loaded) rooted'.from_discovered]
  exact reached_alias_iff asked names rooted.source_built away away'

/-- From the alias the record itself is found where one of its fields leads back to it. -/
theorem source_found_of_refers
    {field : RecordField} (here : field ∈ root.source.fields)
    (refers : field.shape.nestedRecord? = some root.source.key) :
    root.source.key ∈ (others ++ [via.source]).map Record.key := by
  rw [key_of_record? asked rooted.source_built] at refers ⊢
  obtain ⟨space, loaded⟩ := exists_load_of_discover rooted.from_discovered
  rw [mem_keys_of_discover asked (names.path ▸ loaded) rooted'.from_discovered]
  exact reached_alias_of_refers asked names rooted.source_built
    (refers_self asked rooted.source_built here refers)

/-- The conversions of the root converters follow each other, field pair by field pair. -/
theorem conversions_of_alias :
    List.Forall₂ (FieldConversion.FollowedBy request) root.conversions via.conversions := by
  obtain ⟨renamed, same_target, same_before⟩ := roots_of_alias asked names rooted rooted'
  have agree := agree_of_alias asked names rooted rooted'
  have source_key := key_of_record? asked rooted.source_built
  have target_key := key_of_record? asked rooted.target_built
  have via_key := key_of_record? asked rooted'.source_built
  have source_name : root.source.name = request.sourceType := congrArg QualifiedName.name source_key
  have target_name : root.target.name = request.targetType := congrArg QualifiedName.name target_key
  have one_list : provider.fieldPairs request.sourcePath request.ignore via.records =
      provider.fieldPairs request.sourcePath request.ignore root.records := by
    simp only [fieldPairs_eq, Converter.records, renamed, same_target]
  rw [rooted.conversions, rooted'.conversions, one_list, same_before, same_target,
    List.forall₂_map_left_iff, List.forall₂_map_right_iff, List.forall₂_same]
  intro pair listed
  obtain ⟨field, here, spelled⟩ := exists_source_of_mem_fieldPairs listed
  have shape : pair.source.shape = field.shape := by rw [spelled]; rfl
  refine ⟨by simp, fun kept => ?_, fun ⟨_, refers⟩ differ => ?_⟩
  · refine strategy_alias rooted.distinct rooted'.distinct agree ?_ ?_ ?_
    · rw [via_key, shape]
      exact nestedRecord?_ne_alias (tidy_of_record? rooted.source_built) here names
    · rw [shape]
      exact source_found_of_refers asked names rooted rooted' here
    · rw [source_key, target_key, source_name, target_name]
      rintro ⟨⟨delegates, refers⟩, differ⟩
      exact kept ⟨⟨delegates, by simpa using refers⟩, differ⟩
  · rw [Resolver.pair_resolveField, ← source_key, ← target_key] at refers
    rw [← source_name, ← target_name] at differ
    have other_name : root.source.key ≠ via.source.key := by
      rw [source_key, via_key]
      exact names.ref_ne
    exact not_delegates_of_alias rooted'.distinct other_name refers differ

end Alias

end Provider

namespace Catalog

variable {config : CatalogConfig} {catalog : Catalog} {request : PlanRequest} {plan : Plan}

/-- Where the target of an alias resolves to a record of its namespace and there is a plan from that
record, there is one from the alias exactly if the alias itself resolves to the record: its chain
has one alias more than that of its target.  The root converter then has the field pairs of that
from the record, in their order and with the strategies that these have there, except that a field
pair which leads back to the two roots is not delegated if these are of two names. -/
theorem plan_from_alias
    (built : ofConfig config = .ok catalog)
    {synonym : String} {target : HostType}
    (aliased : catalog.table.aliasTarget? (.named ⟨request.sourcePath, synonym⟩) = some target)
    (resolved : catalog.table.resolve target = .named request.source)
    (answered : (catalog.provider.plan request).value = .ok plan) :
    ((∃ other, (catalog.provider.plan { request with sourceType := synonym }).value = .ok other) ↔
      catalog.table.resolve (.named ⟨request.sourcePath, synonym⟩) = .named request.source) ∧
    ∀ other, (catalog.provider.plan { request with sourceType := synonym }).value = .ok other →
      ∃ root via,
        plan.converters.head? = some root ∧ root.keys = (request.source, request.target) ∧
        other.converters.head? = some via ∧
        via.keys = (⟨request.sourcePath, synonym⟩, request.target) ∧
        List.Forall₂ (FieldConversion.FollowedBy request) root.conversions via.conversions := by
  have asked := loadsAsAsked_of_ofConfig built
  have stands : catalog.table.StandsFor (.named ⟨request.sourcePath, synonym⟩)
      (.named request.source) := by
    have ends : catalog.table.resolve target ≠ .other target.text := by
      rw [resolved]
      nofun
    exact .through aliased (resolved ▸ Declarations.standsFor_resolve ends)
  have names (itself : catalog.table.resolve (.named ⟨request.sourcePath, synonym⟩) =
      .named request.source) :
      catalog.table.AliasOf ⟨request.sourcePath, synonym⟩ request.source :=
    ⟨by rw [aliased]; nofun, itself, rfl⟩
  have itself (other : Plan)
      (answered' : (catalog.provider.plan { request with sourceType := synonym }).value =
        .ok other) :
      catalog.table.resolve (.named ⟨request.sourcePath, synonym⟩) = .named request.source := by
    obtain ⟨via, others, others', rooted'⟩ := Provider.exists_rootedAt asked answered'
    obtain ⟨space, body, _, found, _⟩ :=
      Provider.exists_body_of_record? asked rooted'.source_built
    exact stands.resolve_eq_of_recordBody? found
  obtain ⟨root, before, before', rooted⟩ := Provider.exists_rootedAt asked answered
  refine ⟨⟨fun ⟨other, answered'⟩ => itself other answered', fun resolves => ?_⟩, ?_⟩
  · obtain ⟨others, discovered⟩ :=
      Provider.exists_discover_alias asked (names resolves) rooted.from_discovered
    exact Provider.exists_plan_of_discovered discovered rooted.to_discovered
  · intro other answered'
    obtain ⟨via, others, others', rooted'⟩ := Provider.exists_rootedAt asked answered'
    refine ⟨root, via, rooted.first, ?_, rooted'.first, ?_,
      Provider.conversions_of_alias asked (names (itself other answered')) rooted rooted'⟩
    · exact Prod.ext (Provider.key_of_record? asked rooted.source_built)
        (Provider.key_of_record? asked rooted.target_built)
    · exact Prod.ext (Provider.key_of_record? asked rooted'.source_built)
        (Provider.key_of_record? asked rooted'.target_built)

/-- Nodes that lead to further nodes, with an alias, and what becomes of them elsewhere. -/
def linked : CatalogConfig :=
  let node (name : String) : String × TypeConfig :=
    (name, ⟨some [⟨some "Next", "*" ++ name, false, none⟩], none, none, []⟩)
  ⟨none, Keyed.ofList
    [("m", ⟨none, none, Keyed.ofList [node "Node", ("A", ⟨none, none, some "Node", []⟩)]⟩),
      ("d", ⟨none, none, Keyed.ofList [node "DTO"]⟩)]⟩

/-- The conversion of nodes, asked for by one of their names. -/
def fromNode (name : String) : PlanRequest :=
  ⟨"m", name, "d", "DTO", none, []⟩

/-- The strategies of the root converter of a plan, if there is one. -/
def rootStrategies? (catalog : Catalog) (request : PlanRequest) : Option (List Strategy) :=
  (catalog.provider.plan request).value.toOption.bind fun plan =>
    plan.converters.head?.map fun root => root.conversions.map (·.strategy)

theorem exists_root_of_rootStrategies?
    {strategies : List Strategy}
    (found : catalog.rootStrategies? request = some strategies) :
    ∃ plan root, (catalog.provider.plan request).value = .ok plan ∧
      plan.converters.head? = some root ∧ root.conversions.map (·.strategy) = strategies := by
  obtain ⟨plan, answered, first⟩ := Option.bind_eq_some_iff.1 found
  obtain ⟨root, begins, strategies⟩ := Option.map_eq_some_iff.1 first
  refine ⟨plan, root, ?_, begins, strategies⟩
  cases value : (catalog.provider.plan request).value with
  | error cause => simp [value, Except.toOption] at answered
  | ok other => simpa [value, Except.toOption] using answered

/-- From the nodes the next one is left to the root converter, from their alias it is skipped. -/
theorem exists_catalog_linked :
    ∃ catalog, ofConfig linked = .ok catalog ∧
      catalog.table.aliasTarget? (.named ⟨"m", "A"⟩) = some (.named ⟨"m", "Node"⟩) ∧
      catalog.table.resolve (.named ⟨"m", "A"⟩) = .named ⟨"m", "Node"⟩ ∧
      catalog.rootStrategies? (fromNode "Node") = some [.nestedStructPointerConvert] ∧
      catalog.rootStrategies? (fromNode "A") = some [.skip] := by
  have computed :
      (ofConfig linked).toOption.any (fun catalog =>
        catalog.table.aliasTarget? (.named ⟨"m", "A"⟩) = some (.named ⟨"m", "Node"⟩) ∧
        catalog.table.resolve (.named ⟨"m", "A"⟩) = .named ⟨"m", "Node"⟩ ∧
        catalog.rootStrategies? (fromNode "Node") = some [.nestedStructPointerConvert] ∧
        catalog.rootStrategies? (fromNode "A") = some [.skip]) = true := by
    decide +kernel
  obtain ⟨catalog, built, found⟩ := exists_ok_of_any computed
  exact ⟨catalog, built, of_decide_eq_true found⟩

/-- There is a plan from the alias of the nodes, and its root converter follows that from the nodes
field pair by field pair. -/
theorem plan_from_alias_linked :
    ∃ catalog, ofConfig linked = .ok catalog ∧
      catalog.table.aliasTarget? (.named ⟨"m", "A"⟩) = some (.named ⟨"m", "Node"⟩) ∧
      catalog.table.resolve (.named ⟨"m", "Node"⟩) = .named ⟨"m", "Node"⟩ ∧
      ∃ plan other root via,
        (catalog.provider.plan (fromNode "Node")).value = .ok plan ∧
        (catalog.provider.plan (fromNode "A")).value = .ok other ∧
        plan.converters.head? = some root ∧ other.converters.head? = some via ∧
        List.Forall₂ (FieldConversion.FollowedBy (fromNode "Node")) root.conversions
          via.conversions := by
  obtain ⟨catalog, built, aliased, resolved, direct, _⟩ := exists_catalog_linked
  have itself : catalog.table.resolve (.named ⟨"m", "Node"⟩) = .named ⟨"m", "Node"⟩ := by
    rw [← resolved, Declarations.resolve_resolve]
  obtain ⟨plan, _, answered, _, _⟩ := exists_root_of_rootStrategies? direct
  obtain ⟨succeeds, follows⟩ :=
    @plan_from_alias _ _ (fromNode "Node") _ built _ _ aliased itself answered
  obtain ⟨other, answered'⟩ := succeeds.2 resolved
  obtain ⟨root, via, first, _, first', _, kept⟩ := follows other answered'
  exact ⟨catalog, built, aliased, itself, plan, other, root, via, answered, answered', first,
    first', kept⟩

/-- The next node has another strategy if the nodes are asked for by their alias. -/
theorem next_skipped_from_alias :
    ∃ catalog plan other root via,
      ofConfig linked = .ok catalog ∧
      catalog.table.aliasTarget? (.named ⟨"m", "A"⟩) = some (.named ⟨"m", "Node"⟩) ∧
      catalog.table.resolve (.named ⟨"m", "A"⟩) = .named ⟨"m", "Node"⟩ ∧
      (catalog.provider.plan (fromNode "Node")).value = .ok plan ∧
      (catalog.provider.plan (fromNode "A")).value = .ok other ∧
      plan.converters.head? = some root ∧ other.converters.head? = some via ∧
      root.conversions.map (·.strategy) = [.nestedStructPointerConvert] ∧
      via.conversions.map (·.strategy) = [.skip] := by
  obtain ⟨catalog, built, aliased, resolved, direct, indirect⟩ := exists_catalog_linked
  obtain ⟨plan, root, answered, first, strategies⟩ := exists_root_of_rootStrategies? direct
  obtain ⟨other, via, answered', first', strategies'⟩ := exists_root_of_rootStrategies? indirect
  exact ⟨catalog, plan, other, root, via, built, aliased, resolved, answered, answered', first,
    first', strategies, strategies'⟩

end Catalog
end RecordConversion
