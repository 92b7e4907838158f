import RecordConversion.Plan.Basic
import RecordConversion.Proofs.Resolver

/-!
# The two passes of a plan

The converters of a plan are made in two passes over record pairs, each pass with all its pairs in
the set that the rules see.  The resolver that makes them carries nothing from one converter to the
next, so a converter depends on its pair and on the pairs of its pass alone.

* `Resolver.convertPairs_eq`: the converters of a pass, pair by pair.
* `Resolver.planBetween_value`: the plan between two discoveries, if any of their records pair.
* `Resolver.exists_madeFrom`: every plan that is answered is made so from two discoveries.
-/

namespace RecordConversion

/-- The pairs of the first pass, for records that have been discovered. -/
def forwardPairs (sources targets : List Record) : List RecordPair :=
  withRootPair sources.getLast? targets.getLast? (pairRecords sources targets)

/-- The pairs of the way back are those of different records, turned round. -/
theorem keys_backwardPairs
    (forward : List RecordPair) :
    (backwardPairs forward).map RecordPair.keys =
      ((forward.map RecordPair.keys).filter fun keys => keys.1 ≠ keys.2).map Prod.swap := by
  have turned : RecordPair.keys ∘ RecordPair.reversed = Prod.swap ∘ RecordPair.keys := rfl
  rw [backwardPairs, List.map_map, turned, ← List.map_map, List.filter_map]
  congr 2
  refine List.filter_congr fun pair _ => ?_
  simp only [Record.sameIdentity, RecordPair.keys, Function.comp_apply, decide_not]
  rfl

namespace Resolver

/-- The converter of a record pair among the pairs of its pass, by given rules. -/
def converterOf
    (rules : List Rule) (provider : Provider) (outputPath : String) (request : PlanRequest)
    (rootName? : Option String) (all : List RecordPair) (pair : RecordPair) : Converter :=
  ⟨pair.source, pair.target, request.converterNameFor rootName? pair,
    (provider.fieldPairs outputPath request.ignore pair).map fun fields =>
      (resolveField ⟨rules, .ofPairs all⟩ provider fields).value⟩

theorem keys_converterOf
    (rules : List Rule) (provider : Provider) (outputPath : String) (request : PlanRequest)
    (rootName? : Option String) (all pairs : List RecordPair) :
    (pairs.map (converterOf rules provider outputPath request rootName? all)).map Converter.keys =
      pairs.map RecordPair.keys := by
  rw [List.map_map]
  rfl

theorem convertPair_eq
    (resolver : Resolver) (provider : Provider) (outputPath : String) (request : PlanRequest)
    (rootName? : Option String) (all : List RecordPair) (pair : RecordPair) :
    (resolver.convertPair provider outputPath request rootName? all pair).1.value =
        converterOf resolver.rules provider outputPath request rootName? all pair ∧
      (resolver.convertPair provider outputPath request rootName? all pair).2.rules =
        resolver.rules := by
  constructor
  · simp only [convertPair, converterOf, resolve_value]
    rfl
  · simp only [convertPair, resolve_rules]

/-- The converters of a pass are made by the rules of the resolver, which stay. -/
theorem convertPairs_eq
    (resolver : Resolver) (provider : Provider) (outputPath : String) (request : PlanRequest)
    (rootName? : Option String) (all pairs : List RecordPair) :
    (resolver.convertPairs provider outputPath request rootName? all pairs).1.value =
        pairs.map (converterOf resolver.rules provider outputPath request rootName? all) ∧
      (resolver.convertPairs provider outputPath request rootName? all pairs).2.rules =
        resolver.rules := by
  induction pairs generalizing resolver with
  | nil => exact ⟨rfl, rfl⟩
  | cons pair rest ih =>
      obtain ⟨first, kept⟩ :=
        convertPair_eq resolver provider outputPath request rootName? all pair
      obtain ⟨others, kept'⟩ :=
        ih (resolver.convertPair provider outputPath request rootName? all pair).2
      rw [kept] at others kept'
      constructor
      · simp only [convertPairs, List.map_cons]
        rw [first, others]
      · simp only [convertPairs]
        exact kept'

end Resolver

/-- The plan between records that have been discovered, by given rules. -/
def Resolver.planned
    (rules : List Rule) (provider : Provider) (request : PlanRequest)
    (sources targets : List Record) : Plan :=
  let outputPath := (sources.getLast?.map (·.path)).getD request.sourcePath
  let forward := forwardPairs sources targets
  let backward := backwardPairs forward
  let converters :=
    forward.map (converterOf rules provider outputPath request request.customName? forward) ++
      backward.map (converterOf rules provider outputPath request none backward)
  ⟨outputPath, converters, converters.flatMap Converter.skippedFields⟩

/-- A plan holds the converters of both passes over the pairs of two discoveries. -/
structure Plan.MadeFrom
    (plan : Plan) (rules : List Rule) (provider : Provider) (request : PlanRequest)
    (sources targets : List Record) : Prop where
  from_discovered : (provider.discover request.source).value = .ok sources
  to_discovered : (provider.discover request.target).value = .ok targets
  converters :
    plan.converters =
      (forwardPairs sources targets).map
        (Resolver.converterOf rules provider plan.outputPath request request.customName?
          (forwardPairs sources targets)) ++
      (backwardPairs (forwardPairs sources targets)).map
        (Resolver.converterOf rules provider plan.outputPath request none
          (backwardPairs (forwardPairs sources targets)))

/-- Each converter of a plan is made from a record pair in one of the passes. -/
theorem Plan.MadeFrom.exists_converterOf
    {plan : Plan} {rules : List Rule} {provider : Provider} {request : PlanRequest}
    {sources targets : List Record}
    (made : plan.MadeFrom rules provider request sources targets)
    {converter : Converter} (member : converter ∈ plan.converters) :
    ∃ rootName? all pair, converter =
      Resolver.converterOf rules provider plan.outputPath request rootName? all pair := by
  rw [made.converters] at member
  rcases List.mem_append.1 member with there | back
  · obtain ⟨pair, _, rfl⟩ := List.mem_map.1 there
    exact ⟨_, _, pair, rfl⟩
  · obtain ⟨pair, _, rfl⟩ := List.mem_map.1 back
    exact ⟨_, _, pair, rfl⟩

namespace Resolver

variable {provider : Provider} {request : PlanRequest}

/-- A plan is answered between records that have been discovered exactly if some pair, and it is
made by the rules of the resolver. -/
theorem planBetween_value
    (resolver : Resolver) (provider : Provider) (request : PlanRequest)
    (sources targets : List Record) :
    (resolver.planBetween provider request sources targets).1.value =
      if (forwardPairs sources targets).isEmpty then
        .error (.noMatch request.sourceType request.targetType)
      else .ok (planned resolver.rules provider request sources targets) := by
  rw [planBetween]
  split
  · next none_pairs => exact (if_pos none_pairs).symm
  · next some_pair =>
      let outputPath := (sources.getLast?.map (·.path)).getD request.sourcePath
      let forward := forwardPairs sources targets
      obtain ⟨there, kept⟩ :=
        convertPairs_eq resolver provider outputPath request request.customName? forward forward
      obtain ⟨back, _⟩ :=
        convertPairs_eq
          (resolver.convertPairs provider outputPath request request.customName? forward forward).2
          provider outputPath request none (backwardPairs forward) (backwardPairs forward)
      rw [kept] at back
      refine Eq.trans ?_ (if_neg some_pair).symm
      rw [planned, ← there, ← back]
      rfl

/-- A plan that is answered between records that have been discovered is the one that the rules of
the resolver make. -/
theorem eq_planned_of_planBetween
    {resolver : Resolver} {sources targets : List Record} {plan : Plan}
    (answered : (resolver.planBetween provider request sources targets).1.value = .ok plan) :
    plan = planned resolver.rules provider request sources targets := by
  rw [planBetween_value] at answered
  split at answered
  · cases answered
  · exact (Except.ok.inj answered).symm

/-- A plan between records that have been discovered has the converters of both passes. -/
theorem converters_of_planBetween
    {resolver : Resolver} {sources targets : List Record} {plan : Plan}
    (answered : (resolver.planBetween provider request sources targets).1.value = .ok plan) :
    plan.converters =
      (forwardPairs sources targets).map
        (converterOf resolver.rules provider plan.outputPath request request.customName?
          (forwardPairs sources targets)) ++
      (backwardPairs (forwardPairs sources targets)).map
        (converterOf resolver.rules provider plan.outputPath request none
          (backwardPairs (forwardPairs sources targets))) := by
  rw [eq_planned_of_planBetween answered]
  rfl

theorem outputPath_of_planBetween
    {resolver : Resolver} {sources targets : List Record} {plan : Plan}
    (answered : (resolver.planBetween provider request sources targets).1.value = .ok plan) :
    plan.outputPath = (sources.getLast?.map (·.path)).getD request.sourcePath := by
  rw [eq_planned_of_planBetween answered]
  rfl

theorem skipped_of_planBetween
    {resolver : Resolver} {sources targets : List Record} {plan : Plan}
    (answered : (resolver.planBetween provider request sources targets).1.value = .ok plan) :
    plan.skipped = plan.converters.flatMap Converter.skippedFields := by
  rw [eq_planned_of_planBetween answered]
  rfl

theorem plan_value_of_discovered
    {resolver : Resolver} {sources targets : List Record}
    (from_discovered : (provider.discover request.source).value = .ok sources)
    (to_discovered : (provider.discover request.target).value = .ok targets) :
    (resolver.plan provider request).1.value =
      (resolver.planBetween provider request sources targets).1.value := by
  simp only [Resolver.plan, from_discovered, to_discovered, Logged.after]

/-- A plan that is answered is one between the records of two discoveries. -/
theorem exists_discovered_of_plan
    {resolver : Resolver} {plan : Plan}
    (answered : (resolver.plan provider request).1.value = .ok plan) :
    ∃ sources targets,
      (provider.discover request.source).value = .ok sources ∧
      (provider.discover request.target).value = .ok targets ∧
      (resolver.planBetween provider request sources targets).1.value = .ok plan := by
  cases from_discovered : (provider.discover request.source).value with
  | error cause => simp [Resolver.plan, from_discovered] at answered
  | ok sources =>
      cases to_discovered : (provider.discover request.target).value with
      | error cause => simp [Resolver.plan, from_discovered, to_discovered] at answered
      | ok targets =>
          rw [plan_value_of_discovered from_discovered to_discovered] at answered
          exact ⟨sources, targets, rfl, rfl, answered⟩

/-- A plan lists the skipped fields converter by converter. -/
theorem skipped_of_plan
    {resolver : Resolver} {plan : Plan}
    (answered : (resolver.plan provider request).1.value = .ok plan) :
    plan.skipped = plan.converters.flatMap Converter.skippedFields := by
  obtain ⟨sources, targets, _, _, between⟩ := exists_discovered_of_plan answered
  exact skipped_of_planBetween between

/-- A plan that is answered is made in two passes over the pairs of what has been discovered. -/
theorem exists_madeFrom
    {resolver : Resolver} {plan : Plan}
    (answered : (resolver.plan provider request).1.value = .ok plan) :
    ∃ sources targets, plan.MadeFrom resolver.rules provider request sources targets := by
  obtain ⟨sources, targets, from_discovered, to_discovered, between⟩ :=
    exists_discovered_of_plan answered
  exact ⟨sources, targets, from_discovered, to_discovered, converters_of_planBetween between⟩

end Resolver
end RecordConversion
