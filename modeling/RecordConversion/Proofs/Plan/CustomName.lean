import RecordConversion.Proofs.Plan.ConverterNames
import RecordConversion.Proofs.Rule.CalledName

/-!
# A name of its own for the root converter

A request may give the converter between the roots a name.  The first pass gives that name to every
pair with the record names of the roots, in whatever namespace; the rule that leaves records to
their converter always calls the derived name.

* `Provider.takes_custom_name_iff`: which converters take the name, and exactly when it is the root
  converter alone.
* `Provider.calls_derived_name_of_roots`: what the statements call that are left to the root
  converter, and which converters bear that name.
-/

namespace RecordConversion

namespace PlanRequest

/-- The name is given to the pairs with the record names of the roots. -/
theorem converterNameFor_some
    (request : PlanRequest) {source target : Record}
    (from_root : source.name = request.sourceType) (to_root : target.name = request.targetType)
    (name : String) (pair : RecordPair) :
    request.converterNameFor (some name) pair =
      if pair.source.name = source.name ∧ pair.target.name = target.name then name
      else converterName pair.source.key pair.target.key := by
  rw [from_root, to_root]
  rfl

end PlanRequest

section Pairs

variable {before before' : List Record} {source target : Record}
variable (distinct : ((before ++ [source]).map Record.key).Nodup)
include distinct

/-- Besides the roots, the pairs with their record names go from further records of the one name to
the target root. -/
theorem roots_names_iff
    (pair : RecordPair) :
    (pair ∈ forwardPairs (before ++ [source]) (before' ++ [target]) ∧ pair ≠ ⟨source, target⟩ ∧
      pair.source.name = source.name ∧ pair.target.name = target.name) ↔
    (pair.source ∈ before ++ [source] ∧ pair.source ≠ source ∧ pair.source.name = source.name ∧
      pair.source.name = target.name ∧ pair.target = target) := by
  have last (record : Record) (same : record.name = target.name) :
      (before' ++ [target]).findRev? (fun other => other.name == record.name) = some target := by
    apply findRev?_eq_some_iff.2
    exact ⟨by simpa using same.symm, before', [], rfl, by simp⟩
  constructor
  · rintro ⟨member, other, from_name, to_name⟩
    have by_name := (eq_roots_or_mem_pairRecords distinct member).resolve_left other
    have one : pair.source.name = target.name :=
      (name_eq_of_mem_pairRecords by_name).symm.trans to_name
    obtain ⟨listed, found⟩ := mem_pairRecords_iff.1 by_name
    have to_target : pair.target = target := Option.some.inj (found.symm.trans (last _ one))
    refine ⟨listed, ?_, from_name, one, to_target⟩
    intro from_source
    apply other
    rw [← from_source, ← to_target]
  · rintro ⟨listed, other, from_name, one, to_target⟩
    have by_name : pair ∈ pairRecords (before ++ [source]) (before' ++ [target]) :=
      mem_pairRecords_iff.2 ⟨listed, (last _ one).trans (congrArg some to_target.symm)⟩
    have not_roots : pair ≠ ⟨source, target⟩ := by
      rintro rfl
      exact other rfl
    refine ⟨?_, not_roots, from_name, congrArg Record.name to_target⟩
    rw [forwardPairs_eq distinct]
    exact List.mem_cons_of_mem _ (List.mem_filter.2 ⟨by_name, by simpa using not_roots⟩)

end Pairs

/-- A plan in its two passes, the first of which begins with the converter between the roots. -/
structure Plan.BeginsWith
    (plan : Plan) (source target : Record) (root : Converter) (others backward : List Converter) :
    Prop where
  converters : plan.converters = root :: others ++ backward
  between_roots : root.records = ⟨source, target⟩
  way_back :
    backward.map Converter.keys =
      (((root :: others).map Converter.keys).filter fun keys => keys.1 ≠ keys.2).map Prod.swap
  distinct : (plan.converters.map Converter.keys).Nodup

/-- The converter between the roots is the only one with their identities. -/
theorem Plan.BeginsWith.eq_root
    {plan : Plan} {source target : Record} {root : Converter} {others backward : List Converter}
    (begins : plan.BeginsWith source target root others backward)
    {converter : Converter} (member : converter ∈ plan.converters)
    (roots : converter.keys = (source.key, target.key)) :
    converter = root := by
  have listed : root ∈ plan.converters := by simp [begins.converters]
  have keys : root.keys = (source.key, target.key) := congrArg RecordPair.keys begins.between_roots
  exact List.inj_on_of_nodup_map begins.distinct member listed (roots.trans keys.symm)

/-- The pairs of the first pass after that of the roots. -/
def otherPairs (sources targets : List Record) (roots : RecordPair) : List RecordPair :=
  (pairRecords sources targets).filter fun pair => pair ≠ roots

section Passes

variable {plan : Plan} {rules : List Rule} {provider : Provider} {request : PlanRequest}
variable {before before' : List Record} {source target : Record}

theorem mem_otherPairs_iff
    (distinct : ((before ++ [source]).map Record.key).Nodup) {pair : RecordPair} :
    pair ∈ otherPairs (before ++ [source]) (before' ++ [target]) ⟨source, target⟩ ↔
      pair ∈ forwardPairs (before ++ [source]) (before' ++ [target]) ∧ pair ≠ ⟨source, target⟩ := by
  rw [forwardPairs_eq distinct, ← otherPairs, List.mem_cons]
  constructor
  · intro member
    exact ⟨.inr member, of_decide_eq_true (List.mem_filter.1 member).2⟩
  · rintro ⟨member, other⟩
    exact member.resolve_left other

/-- The converters of a plan, that of the roots apart. -/
theorem Plan.MadeFrom.beginsWith
    (made : plan.MadeFrom rules provider request (before ++ [source]) (before' ++ [target]))
    (distinct : ((before ++ [source]).map Record.key).Nodup) :
    let all := forwardPairs (before ++ [source]) (before' ++ [target])
    let there := Resolver.converterOf rules provider plan.outputPath request request.customName? all
    let back :=
      Resolver.converterOf rules provider plan.outputPath request none (backwardPairs all)
    plan.BeginsWith source target (there ⟨source, target⟩)
      ((otherPairs (before ++ [source]) (before' ++ [target]) ⟨source, target⟩).map there)
      ((backwardPairs all).map back) := by
  intro all there back
  have first : all.map there = there ⟨source, target⟩ ::
      (otherPairs (before ++ [source]) (before' ++ [target]) ⟨source, target⟩).map there := by
    rw [← List.map_cons, otherPairs, ← forwardPairs_eq distinct]
  have converters : plan.converters = all.map there ++ (backwardPairs all).map back :=
    made.converters
  refine ⟨?_, rfl, ?_, ?_⟩
  · rw [converters, first]
  · rw [← first, Resolver.keys_converterOf, Resolver.keys_converterOf, keys_backwardPairs]
  · rw [converters, List.map_append, Resolver.keys_converterOf, Resolver.keys_converterOf,
      ← List.map_append]
    exact nodup_keys_passes distinct

end Passes

namespace Provider

variable {provider : Provider} {request : PlanRequest} {plan : Plan}

/-- A name that is asked for goes to the root converter and to every other converter of the first
pass with the record names of the roots; all further converters have the derived name.  So the root
converter takes it alone exactly if the roots have different names or no further source record has
their name, or if the name is the one that is derived for that record. -/
theorem takes_custom_name_iff
    {name : String}
    (named : request.customName? = some name)
    (answered : (provider.plan request).value = .ok plan) :
    ∃ sources source target root others backward,
      (provider.discover request.source).value = .ok sources ∧
      provider.record? request.source = .ok source ∧
      provider.record? request.target = .ok target ∧
      plan.BeginsWith source target root others backward ∧
      root.functionName = name ∧
      (∀ converter ∈ others,
        converter.functionName =
          if converter.source.name = source.name ∧ converter.target.name = target.name then name
          else converterName converter.source.key converter.target.key) ∧
      (∀ converter ∈ backward,
        converter.functionName = converterName converter.source.key converter.target.key) ∧
      ((∀ converter ∈ others ++ backward,
          converter.functionName = converterName converter.source.key converter.target.key) ↔
        ∀ record ∈ sources, record ≠ source → record.name = source.name →
          record.name = target.name → name = converterName record.key target.key) := by
  obtain ⟨before, source, before', target, made, source_built, target_built, distinct⟩ :=
    exists_roots_of_plan answered
  have begins := made.beginsWith distinct
  rw [named] at begins
  have given := request.converterNameFor_some
    (name_of_record? source_built) (name_of_record? target_built) name
  refine ⟨_, source, target, _, _, _, made.from_discovered, source_built, target_built, begins,
    ?_, ?_, ?_, ?_⟩
  · exact (given _).trans (if_pos ⟨rfl, rfl⟩)
  · intro converter member
    obtain ⟨pair, _, rfl⟩ := List.mem_map.1 member
    exact given pair
  · intro converter member
    obtain ⟨pair, _, rfl⟩ := List.mem_map.1 member
    rfl
  · constructor
    · intro derived record listed other from_name one
      obtain ⟨there, not_roots, from_name, to_name⟩ :=
        (roots_names_iff distinct ⟨record, target⟩).2 ⟨listed, other, from_name, one, rfl⟩
      have member := (mem_otherPairs_iff distinct).2 ⟨there, not_roots⟩
      have name_eq := derived _ (List.mem_append_left _ (List.mem_map_of_mem member))
      have taken := (given ⟨record, target⟩).trans (if_pos ⟨from_name, to_name⟩)
      exact taken.symm.trans name_eq
    · intro alone converter member
      rcases List.mem_append.1 member with there | back
      · obtain ⟨pair, listed, rfl⟩ := List.mem_map.1 there
        obtain ⟨listed, not_roots⟩ := (mem_otherPairs_iff distinct).1 listed
        by_cases names : pair.source.name = source.name ∧ pair.target.name = target.name
        · obtain ⟨from_sources, other, from_name, one, to_target⟩ :=
            (roots_names_iff distinct pair).1 ⟨listed, not_roots, names⟩
          have taken := (given pair).trans (if_pos names)
          have same := alone pair.source from_sources other from_name one
          rw [← to_target] at same
          exact taken.trans same
        · exact (given pair).trans (if_neg names)
      · obtain ⟨pair, _, rfl⟩ := List.mem_map.1 back
        rfl

/-- Orders of the office are to become orders of the depot by a converter with a given name. -/
def shipRequest : PlanRequest :=
  ⟨"office", "Order", "depot", "Order", some "Ship", []⟩

/-- The plan for that request and the names of its converters. -/
theorem exists_plan_shipRequest :
    ∃ plan, (trade.plan shipRequest).value = .ok plan ∧
      plan.converters.map Converter.functionName =
        ["Ship", "ConvertOfficeBuyerToDepotBuyer", "ConvertOfficeLineToDepotLine",
          "ConvertDepotOrderToOfficeOrder", "ConvertDepotBuyerToOfficeBuyer",
          "ConvertDepotLineToOfficeLine"] :=
  ⟨_, rfl, rfl⟩

/-- Between office and depot the root converter takes the name alone. -/
theorem takes_custom_name_iff_trade :
    shipRequest.customName? = some "Ship" ∧
    ∃ plan, (trade.plan shipRequest).value = .ok plan ∧
      plan.converters.map Converter.functionName =
        ["Ship", "ConvertOfficeBuyerToDepotBuyer", "ConvertOfficeLineToDepotLine",
          "ConvertDepotOrderToOfficeOrder", "ConvertDepotBuyerToOfficeBuyer",
          "ConvertDepotLineToOfficeLine"] ∧
      ∃ source target root others backward,
        plan.BeginsWith source target root others backward ∧
        root.functionName = "Ship" ∧
        ∀ converter ∈ backward,
          converter.functionName = converterName converter.source.key converter.target.key := by
  have named : shipRequest.customName? = some "Ship" := rfl
  obtain ⟨plan, answered, names⟩ := exists_plan_shipRequest
  obtain ⟨_, source, target, root, others, backward, _, _, _, begins, taken, _, derived, _⟩ :=
    takes_custom_name_iff named answered
  exact ⟨named, plan, answered, names, source, target, root, others, backward, begins, taken,
    derived⟩

/-- Users of a module that hold their former selves, from a namespace of the same module, and users
of another one. -/
def users : Catalog :=
  ((Catalog.builtin.extend ⟨"m", "m", some "m"⟩
    (Keyed.ofList
      [("User", ⟨⟨"m", "User"⟩,
        .defined (.record [⟨"Old", .named ⟨"m/old", "User"⟩, false, true⟩]), []⟩)])).extend
    ⟨"m/old", "old", some "m"⟩
    (Keyed.ofList
      [("User", ⟨⟨"m/old", "User"⟩, .defined (.record [⟨"ID", .primitive .int, false, true⟩]),
        []⟩)])).extend
    ⟨"d", "d", some "m"⟩
    (Keyed.ofList
      [("User", ⟨⟨"d", "User"⟩, .defined (.record [⟨"ID", .primitive .int, false, true⟩]), []⟩)])

/-- The users of the module are to become users of the other namespace by a converter with a given
name. -/
def toUser : PlanRequest :=
  ⟨"m", "User", "d", "User", some "ToUser", []⟩

/-- The converter of the former users takes the name as well, although they are not the root. -/
theorem not_takes_custom_name_alone_users :
    toUser.customName? = some "ToUser" ∧
    ∃ plan, (users.provider.plan toUser).value = .ok plan ∧
      plan.converters.map (fun converter => (converter.keys, converter.functionName)) =
        [((⟨"m", "User"⟩, ⟨"d", "User"⟩), "ToUser"), ((⟨"m/old", "User"⟩, ⟨"d", "User"⟩), "ToUser"),
          ((⟨"d", "User"⟩, ⟨"m", "User"⟩), "ConvertDUserToMUser"),
          ((⟨"d", "User"⟩, ⟨"m/old", "User"⟩), "ConvertDUserToOldUser")] ∧
      converterName ⟨"m/old", "User"⟩ ⟨"d", "User"⟩ = "ConvertOldUserToDUser" :=
  ⟨rfl, _, rfl, rfl, rfl⟩

/-- Where the root converter is given a name, the statements of the first pass that leave records to
it call the derived name all the same, and nothing else.  So they call the root converter exactly if
the given name is the derived one; otherwise no converter bears the derived name, unless it is one
between other records whose name reads alike. -/
theorem calls_derived_name_of_roots
    {name : String}
    (named : request.customName? = some name)
    (answered : (provider.plan request).value = .ok plan) :
    ∃ source target root others backward,
      provider.record? request.source = .ok source ∧
      provider.record? request.target = .ok target ∧
      plan.BeginsWith source target root others backward ∧
      root.functionName = name ∧
      (∀ converter ∈ root :: others, ∀ conversion ∈ converter.conversions,
        conversion.strategy.delegates = true →
        conversion.source.shape.nestedRecord? = some source.key →
        conversion.target.shape.nestedRecord? = some target.key →
          ∀ called, conversion.pair.Calls called conversion.expression ↔
            called = converterName source.key target.key) ∧
      ∀ converter ∈ plan.converters,
        converter.functionName = converterName source.key target.key →
          name = converterName source.key target.key ∨
            converter.keys ≠ (source.key, target.key) ∧
              ReadAlike converter.keys (source.key, target.key) := by
  obtain ⟨before, source, before', target, made, source_built, target_built, distinct⟩ :=
    exists_roots_of_plan answered
  have begins := made.beginsWith distinct
  have given := request.converterNameFor_some
    (name_of_record? source_built) (name_of_record? target_built) name
  have taken : ∀ pair : RecordPair, pair.keys = (source.key, target.key) →
      request.converterNameFor request.customName? pair = name := by
    intro pair same
    obtain ⟨same_source, same_target⟩ := Prod.mk.inj same
    rw [named, given]
    exact if_pos ⟨congrArg QualifiedName.name same_source, congrArg QualifiedName.name same_target⟩
  refine ⟨source, target, _, _, _, source_built, target_built, begins, taken _ rfl, ?_, ?_⟩
  · intro converter member conversion listed delegates from_record to_record called
    rw [← List.map_cons] at member
    obtain ⟨pair, _, rfl⟩ := List.mem_map.1 member
    obtain ⟨callee, _, from_callee, to_callee, call⟩ :=
      Resolver.exists_pair_of_delegates listed delegates
    rw [← Option.some.inj (from_record.symm.trans from_callee),
      ← Option.some.inj (to_record.symm.trans to_callee)] at call
    constructor
    · intro other
      exact other.unique call
    · rintro rfl
      exact call
  · intro converter member derived
    by_cases roots : converter.keys = (source.key, target.key)
    · have root_name := congrArg Converter.functionName (begins.eq_root member roots)
      exact .inl ((taken _ rfl).symm.trans (root_name.symm.trans derived))
    · have alike :
          converter.functionName = converterName converter.source.key converter.target.key →
          ReadAlike converter.keys (source.key, target.key) :=
        fun own => converterName_eq_iff_readAlike.1 (own.symm.trans derived)
      rcases made.of_mem member with ⟨_, name_eq⟩ | ⟨_, own⟩
      · rw [named, given] at name_eq
        split at name_eq
        · exact .inl (name_eq.symm.trans derived)
        · exact .inr ⟨roots, alike name_eq⟩
      · exact .inr ⟨roots, alike own⟩

/-- The orders of a buyer are left to the root converter by its derived name, which no converter of
the plan bears. -/
theorem calls_derived_name_of_roots_trade :
    shipRequest.customName? = some "Ship" ∧
    ∃ plan, (trade.plan shipRequest).value = .ok plan ∧
      plan.converters.map Converter.functionName =
        ["Ship", "ConvertOfficeBuyerToDepotBuyer", "ConvertOfficeLineToDepotLine",
          "ConvertDepotOrderToOfficeOrder", "ConvertDepotBuyerToOfficeBuyer",
          "ConvertDepotLineToOfficeLine"] ∧
      ∃ source target root others backward,
        plan.BeginsWith source target root others backward ∧
        root.functionName = "Ship" ∧
        ∀ converter ∈ root :: others, ∀ conversion ∈ converter.conversions,
          conversion.strategy.delegates = true →
          conversion.source.shape.nestedRecord? = some source.key →
          conversion.target.shape.nestedRecord? = some target.key →
            ∀ called, conversion.pair.Calls called conversion.expression ↔
              called = converterName source.key target.key := by
  have named : shipRequest.customName? = some "Ship" := rfl
  obtain ⟨plan, answered, names⟩ := exists_plan_shipRequest
  obtain ⟨source, target, root, others, backward, _, _, begins, taken, calls, _⟩ :=
    calls_derived_name_of_roots named answered
  exact ⟨named, plan, answered, names, source, target, root, others, backward, begins, taken, calls⟩

/-- Nodes of two namespaces, each with a pointer to the next one. -/
def nodes : Catalog :=
  (Catalog.builtin.extend ⟨"a", "a", none⟩
    (Keyed.ofList
      [("Node", ⟨⟨"a", "Node"⟩,
        .defined (.record [⟨"Next", .pointer (.named ⟨"a", "Node"⟩), false, true⟩]), []⟩)])).extend
    ⟨"b", "b", none⟩
    (Keyed.ofList
      [("Node", ⟨⟨"b", "Node"⟩,
        .defined (.record [⟨"Next", .pointer (.named ⟨"b", "Node"⟩), false, true⟩]), []⟩)])

/-- The nodes of the one namespace are to become nodes of the other by a converter with a given
name. -/
def toB : PlanRequest :=
  ⟨"a", "Node", "b", "Node", some "ToB", []⟩

/-- The converter of nodes is to call itself for the next node, but it calls a function that does
not exist. -/
theorem not_calls_custom_name_nodes :
    toB.customName? = some "ToB" ∧
    ∃ plan, (nodes.provider.plan toB).value = .ok plan ∧
      plan.converters.map Converter.functionName = ["ToB", "ConvertBNodeToANode"] ∧
      ∃ root ∈ plan.converters, ∃ conversion ∈ root.conversions,
        root.keys = (⟨"a", "Node"⟩, ⟨"b", "Node"⟩) ∧
        root.functionName = "ToB" ∧
        conversion.strategy.delegates = true ∧
        conversion.source.shape.nestedRecord? = some ⟨"a", "Node"⟩ ∧
        conversion.target.shape.nestedRecord? = some ⟨"b", "Node"⟩ ∧
        conversion.expression = "dst.Next = ConvertANodeToBNode(src.Next)" ∧
        ¬ conversion.pair.Calls "ToB" conversion.expression := by
  refine ⟨rfl, _, rfl, rfl, _, List.mem_cons_self, _, List.mem_cons_self, rfl, rfl, rfl, rfl, rfl,
    rfl, ?_⟩
  intro call
  have other :=
    call.unique (.whole (.stored (.inl rfl)) : FieldPair.Calls _ "ConvertANodeToBNode" _)
  revert other
  decide

end Provider
end RecordConversion
