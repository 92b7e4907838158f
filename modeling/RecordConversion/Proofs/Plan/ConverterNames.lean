import RecordConversion.Catalog.Basic
import RecordConversion.Proofs.ConverterName
import RecordConversion.Proofs.Plan.RecordPairs

/-!
# The names of the converters of a plan

Where no name is asked for the converter between the roots, every converter has the name that is
derived from its two records.  Names are derived from the record names and the last segments of the
namespaces alone, so two converters of a plan may have one name.

* `Provider.functionName_ne_iff_not_readAlike`: exactly which converters of a plan have one name.
-/

namespace RecordConversion

/-- A pair of the way back is one of the first pass turned round. -/
theorem exists_of_mem_backwardPairs
    {forward : List RecordPair} {pair : RecordPair}
    (member : pair ∈ backwardPairs forward) :
    ∃ there ∈ forward, pair = there.reversed := by
  obtain ⟨there, kept, rfl⟩ := List.mem_map.1 member
  exact ⟨there, (List.mem_filter.1 kept).1, rfl⟩

section Pairs

variable {before before' : List Record} {source target : Record}
variable (distinct : ((before ++ [source]).map Record.key).Nodup)
include distinct

/-- A pair of the first pass is that of the roots or a pair by name. -/
theorem eq_roots_or_mem_pairRecords
    {pair : RecordPair}
    (member : pair ∈ forwardPairs (before ++ [source]) (before' ++ [target])) :
    pair = ⟨source, target⟩ ∨ pair ∈ pairRecords (before ++ [source]) (before' ++ [target]) := by
  rw [forwardPairs_eq distinct] at member
  rcases List.mem_cons.1 member with root | member
  · exact .inl root
  · exact .inr (List.mem_filter.1 member).1

variable {pair other : RecordPair}

/-- The names for pairs of the first pass between records of one name are equal exactly if the
tokens of the namespaces are.  Both pairs have one target, the last one of their name. -/
theorem converterName_eq_iff_of_forwardPairs
    (member : pair ∈ forwardPairs (before ++ [source]) (before' ++ [target]))
    (member' : other ∈ forwardPairs (before ++ [source]) (before' ++ [target]))
    (name : pair.source.name = pair.target.name) (name' : other.source.name = other.target.name)
    (one : pair.source.name = other.source.name) :
    converterName pair.source.key pair.target.key =
        converterName other.source.key other.target.key ↔
      namespaceToken pair.source.path = namespaceToken other.source.path ∧
        namespaceToken pair.target.path = namespaceToken other.target.path := by
  have shared : pair.target = other.target :=
    target_eq_of_mem_pairRecords (mem_pairRecords_of_mem_forwardPairs distinct member name.symm)
      (mem_pairRecords_of_mem_forwardPairs distinct member' name'.symm) one
  rw [shared] at name ⊢
  rw [converterName_eq_iff_of_target name name']
  exact (and_iff_left rfl).symm

/-- The same on the way back, where the source is shared. -/
theorem converterName_eq_iff_of_backwardPairs
    (member : pair ∈ backwardPairs (forwardPairs (before ++ [source]) (before' ++ [target])))
    (member' : other ∈ backwardPairs (forwardPairs (before ++ [source]) (before' ++ [target])))
    (name : pair.source.name = pair.target.name) (name' : other.source.name = other.target.name)
    (one : pair.source.name = other.source.name) :
    converterName pair.source.key pair.target.key =
        converterName other.source.key other.target.key ↔
      namespaceToken pair.source.path = namespaceToken other.source.path ∧
        namespaceToken pair.target.path = namespaceToken other.target.path := by
  obtain ⟨there, listed, rfl⟩ := exists_of_mem_backwardPairs member
  obtain ⟨there', listed', rfl⟩ := exists_of_mem_backwardPairs member'
  have one' : there.source.name = there'.source.name := name.symm.trans (one.trans name')
  have shared : there.target = there'.target :=
    target_eq_of_mem_pairRecords (mem_pairRecords_of_mem_forwardPairs distinct listed name)
      (mem_pairRecords_of_mem_forwardPairs distinct listed' name') one'
  simp only [RecordPair.reversed] at name name' ⊢
  rw [shared] at name ⊢
  rw [converterName_eq_iff_of_source name name']
  exact (and_iff_right rfl).symm

end Pairs

namespace Provider

variable {provider : Provider} {request : PlanRequest} {plan : Plan}

/-- A record has the name under which it was asked for. -/
theorem name_of_record?
    {ref : QualifiedName} {record : Record}
    (built : provider.record? ref = .ok record) :
    record.name = ref.name := by
  obtain ⟨space, _, inside⟩ := record?_eq_ok_iff.1 built
  exact congrArg QualifiedName.name (key_of_recordIn inside).1

end Provider

namespace Plan.MadeFrom

variable {plan : Plan} {rules : List Rule} {provider : Provider} {request : PlanRequest}
variable {sources targets : List Record}

/-- A converter of the plan is one of the first pass, or one of the way back with the derived
name. -/
theorem of_mem
    (made : plan.MadeFrom rules provider request sources targets)
    {converter : Converter} (member : converter ∈ plan.converters) :
    (converter.records ∈ forwardPairs sources targets ∧
        converter.functionName =
          request.converterNameFor request.customName? converter.records) ∨
      (converter.records ∈ backwardPairs (forwardPairs sources targets) ∧
        converter.functionName = converterName converter.source.key converter.target.key) := by
  rw [made.converters] at member
  rcases List.mem_append.1 member with there | back
  · obtain ⟨pair, listed, rfl⟩ := List.mem_map.1 there
    exact .inl ⟨listed, rfl⟩
  · obtain ⟨pair, listed, rfl⟩ := List.mem_map.1 back
    exact .inr ⟨listed, rfl⟩

/-- Where the root converter is not given a name, every converter has the derived name. -/
theorem functionName_eq
    (made : plan.MadeFrom rules provider request sources targets)
    (unnamed : request.customName? = none)
    {converter : Converter} (member : converter ∈ plan.converters) :
    converter.functionName = converterName converter.source.key converter.target.key := by
  rcases made.of_mem member with ⟨_, name⟩ | ⟨_, name⟩
  · rw [unnamed] at name
    exact name
  · exact name

/-- A converter between records of two names is one between the roots. -/
theorem one_name_or_roots
    {before before' : List Record} {source target : Record}
    (made : plan.MadeFrom rules provider request (before ++ [source]) (before' ++ [target]))
    (distinct : ((before ++ [source]).map Record.key).Nodup)
    {converter : Converter} (member : converter ∈ plan.converters) :
    converter.source.name = converter.target.name ∨
      converter.keys = (source.key, target.key) ∨ converter.keys = (target.key, source.key) := by
  have named : ∀ pair ∈ forwardPairs (before ++ [source]) (before' ++ [target]),
      pair.source.name = pair.target.name ∨ pair.keys = (source.key, target.key) := by
    intro pair listed
    rcases eq_roots_or_mem_pairRecords distinct listed with rfl | by_name
    · exact .inr rfl
    · exact .inl (name_eq_of_mem_pairRecords by_name).symm
  rcases made.of_mem member with ⟨there, _⟩ | ⟨back, _⟩
  · rcases named _ there with one | roots
    · exact .inl one
    · exact .inr (.inl roots)
  · obtain ⟨turned, there, same⟩ := exists_of_mem_backwardPairs back
    have turned_keys : converter.keys = turned.keys.swap := congrArg RecordPair.keys same
    rcases named turned there with one | roots
    · have one' : converter.records.source.name = converter.records.target.name := by
        rw [same]
        exact one.symm
      exact .inl one'
    · rw [roots] at turned_keys
      exact .inr (.inr turned_keys)

end Plan.MadeFrom

namespace Provider

variable {provider : Provider} {request : PlanRequest} {plan : Plan}

/-- Where the root converter is not given a name, two converters between different records have
different names unless their names read alike.  All converters but those between the roots have two
records of one name.  Among the converters of one direction between records of one name, exactly
those share their name whose namespaces have the same tokens on both sides. -/
theorem functionName_ne_iff_not_readAlike
    (unnamed : request.customName? = none)
    (answered : (provider.plan request).value = .ok plan) :
    (∀ converter ∈ plan.converters, ∀ other ∈ plan.converters, converter.keys ≠ other.keys →
      (converter.functionName ≠ other.functionName ↔ ¬ ReadAlike converter.keys other.keys)) ∧
    (∃ source target,
      provider.record? request.source = .ok source ∧
      provider.record? request.target = .ok target ∧
      ∀ converter ∈ plan.converters,
        converter.source.name = converter.target.name ∨
          converter.keys = (source.key, target.key) ∨ converter.keys = (target.key, source.key)) ∧
    ∃ forward backward : List Converter,
      plan.converters = forward ++ backward ∧
      backward.map Converter.keys =
        ((forward.map Converter.keys).filter fun keys => keys.1 ≠ keys.2).map Prod.swap ∧
      ∀ direction ∈ [forward, backward], ∀ converter ∈ direction, ∀ other ∈ direction,
        converter.source.name = converter.target.name →
        other.source.name = other.target.name →
        converter.source.name = other.source.name →
          (converter.functionName = other.functionName ↔
            namespaceToken converter.source.path = namespaceToken other.source.path ∧
              namespaceToken converter.target.path = namespaceToken other.target.path) := by
  obtain ⟨before, source, before', target, made, source_built, target_built, distinct⟩ :=
    exists_roots_of_plan answered
  have converters := made.converters
  rw [unnamed] at converters
  refine ⟨?_, ⟨source, target, source_built, target_built, ?_⟩, _, _, converters, ?_, ?_⟩
  · intro converter member other member' _
    rw [made.functionName_eq unnamed member, made.functionName_eq unnamed member']
    exact not_congr converterName_eq_iff_readAlike
  · intro converter member
    exact made.one_name_or_roots distinct member
  · rw [Resolver.keys_converterOf, Resolver.keys_converterOf, keys_backwardPairs]
  · intro direction listed
    simp only [List.mem_cons, List.not_mem_nil, or_false] at listed
    rcases listed with rfl | rfl
    · intro converter member other member'
      obtain ⟨pair, there, rfl⟩ := List.mem_map.1 member
      obtain ⟨pair', there', rfl⟩ := List.mem_map.1 member'
      exact converterName_eq_iff_of_forwardPairs distinct there there'
    · intro converter member other member'
      obtain ⟨pair, back, rfl⟩ := List.mem_map.1 member
      obtain ⟨pair', back', rfl⟩ := List.mem_map.1 member'
      exact converterName_eq_iff_of_backwardPairs distinct back back'

/-- The converters of the plan between office and depot have names of their own, and none of them
read alike. -/
theorem functionName_ne_iff_not_readAlike_trade :
    tradeRequest.customName? = none ∧
    ∃ plan, (trade.plan tradeRequest).value = .ok plan ∧
      plan.converters.map Converter.functionName =
        ["ConvertOfficeOrderToDepotOrder", "ConvertOfficeBuyerToDepotBuyer",
          "ConvertOfficeLineToDepotLine", "ConvertDepotOrderToOfficeOrder",
          "ConvertDepotBuyerToOfficeBuyer", "ConvertDepotLineToOfficeLine"] ∧
      ∀ converter ∈ plan.converters, ∀ other ∈ plan.converters, converter.keys ≠ other.keys →
        (converter.functionName ≠ other.functionName ↔
          ¬ ReadAlike converter.keys other.keys) := by
  have unnamed : tradeRequest.customName? = none := rfl
  obtain ⟨plan, answered, names⟩ :
      ∃ plan, (trade.plan tradeRequest).value = .ok plan ∧
        plan.converters.map Converter.functionName =
          ["ConvertOfficeOrderToDepotOrder", "ConvertOfficeBuyerToDepotBuyer",
            "ConvertOfficeLineToDepotLine", "ConvertDepotOrderToOfficeOrder",
            "ConvertDepotBuyerToOfficeBuyer", "ConvertDepotLineToOfficeLine"] :=
    ⟨_, rfl, rfl⟩
  exact ⟨unnamed, plan, answered, names, (functionName_ne_iff_not_readAlike unnamed answered).1⟩

/-- Users of two namespaces whose paths end in one segment. -/
def twoModels : Catalog :=
  (Catalog.builtin.extend ⟨"a/model", "model", none⟩
    (Keyed.ofList
      [("User", ⟨⟨"a/model", "User"⟩, .defined (.record [⟨"ID", .primitive .int, false, true⟩]),
        []⟩)])).extend
    ⟨"b/model", "model", none⟩
    (Keyed.ofList
      [("User", ⟨⟨"b/model", "User"⟩, .defined (.record [⟨"ID", .primitive .int, false, true⟩]),
        []⟩)])

/-- The conversion of the users of the one namespace into those of the other. -/
def betweenModels : PlanRequest :=
  ⟨"a/model", "User", "b/model", "User", none, []⟩

/-- The converters there and back between records of one name in namespaces that end in one segment
have one name. -/
theorem not_functionName_ne_twoModels :
    betweenModels.customName? = none ∧
    ∃ plan, (twoModels.provider.plan betweenModels).value = .ok plan ∧
      ∃ converter other, plan.converters = [converter, other] ∧
        converter.keys = (⟨"a/model", "User"⟩, ⟨"b/model", "User"⟩) ∧
        other.keys = (⟨"b/model", "User"⟩, ⟨"a/model", "User"⟩) ∧
        converter.keys ≠ other.keys ∧
        converter.functionName = "ConvertModelUserToModelUser" ∧
        other.functionName = "ConvertModelUserToModelUser" := by
  refine ⟨rfl, _, rfl, _, _, rfl, rfl, rfl, ?_, rfl, rfl⟩
  decide

end Provider
end RecordConversion
