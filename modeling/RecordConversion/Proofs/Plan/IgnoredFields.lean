import RecordConversion.Proofs.Plan.FieldPairs

/-!
# Plans with further ignored fields

The ignored names of a request take field pairs away before anything is resolved, in each pass by
the names on its source side.  The records, their pairs and the names of the converters do not
depend on them, and neither does the conversion of a pair that stays.

* `Resolver.converterOf_ignoring`: a converter loses the conversions whose source is named.
* `Provider.plan_ignoring`: a plan loses them in each converter, and the notices about them.
-/

namespace RecordConversion

/-- The request with further entries of ignored names. -/
def PlanRequest.ignoring (request : PlanRequest) (more : List String) : PlanRequest :=
  { request with ignore := request.ignore ++ more }

/-- The converter without the conversions of the fields that some entries name. -/
def Converter.dropping (entries : List String) (converter : Converter) : Converter :=
  { converter with
    conversions := converter.conversions.filter fun conversion =>
      ¬ NamedBy entries conversion.source.name }

/-- The plan without the conversions of the fields that some entries name, and without the notices
about them. -/
def Plan.dropping (entries : List String) (plan : Plan) : Plan :=
  { plan with
    converters := plan.converters.map (Converter.dropping entries)
    skipped := plan.skipped.filter fun field => ¬ NamedBy entries field.sourceField }

variable {request : PlanRequest} {more : List String}

/-! ## Converters -/

theorem Provider.fieldPairs_append_ignore
    (provider : Provider) (outputPath : String) (ignore more : List String) (pair : RecordPair) :
    provider.fieldPairs outputPath (ignore ++ more) pair =
      (provider.fieldPairs outputPath ignore pair).filter fun fields =>
        ¬ NamedBy more fields.source.name := by
  rw [fieldPairs_eq, fieldPairs_eq, pairFields_append_ignore, List.filter_map]
  rfl

/-- A converter loses the conversions whose source is named. -/
theorem Resolver.converterOf_ignoring
    (rules : List Rule) (provider : Provider) (outputPath : String) (request : PlanRequest)
    (rootName? : Option String) (all : List RecordPair) (more : List String) (pair : RecordPair) :
    converterOf rules provider outputPath (request.ignoring more) rootName? all pair =
      (converterOf rules provider outputPath request rootName? all pair).dropping more := by
  have source (fields : FieldPair) :
      (resolveField ⟨rules, .ofPairs all⟩ provider fields).value.source = fields.source :=
    congrArg FieldPair.source (pair_resolveField _ provider fields)
  rw [converterOf, PlanRequest.ignoring, Provider.fieldPairs_append_ignore, Converter.dropping,
    converterOf, List.filter_map]
  simp only [Function.comp_def, source]
  rfl

/-- The notices of a converter that has lost conversions are those about the others. -/
theorem Converter.skippedFields_dropping
    (entries : List String) (converter : Converter) :
    (converter.dropping entries).skippedFields =
      converter.skippedFields.filter fun field => ¬ NamedBy entries field.sourceField := by
  rw [skippedFields, skippedFields, dropping, List.filter_map, List.filter_comm]
  rfl

/-! ## Plans -/

/-- A plan loses in each converter the conversions whose source is named, and the notices on
them. -/
theorem Resolver.planned_ignoring
    (rules : List Rule) (provider : Provider) (request : PlanRequest)
    (sources targets : List Record) (more : List String) :
    planned rules provider (request.ignoring more) sources targets =
      (planned rules provider request sources targets).dropping more := by
  have pass (outputPath : String) (rootName? : Option String) (all : List RecordPair) :
      all.map (converterOf rules provider outputPath (request.ignoring more) rootName? all) =
        (all.map (converterOf rules provider outputPath request rootName? all)).map
          (Converter.dropping more) := by
    rw [List.map_map]
    exact List.map_congr_left fun pair _ =>
      converterOf_ignoring rules provider outputPath request rootName? all more pair
  have notices (converters : List Converter) :
      (converters.map (Converter.dropping more)).flatMap Converter.skippedFields =
        (converters.flatMap Converter.skippedFields).filter fun field =>
          ¬ NamedBy more field.sourceField := by
    simp only [List.flatMap_map, List.filter_flatMap, Converter.skippedFields_dropping]
  have root_name : (request.ignoring more).customName? = request.customName? := rfl
  simp only [planned, Plan.dropping, pass, root_name, ← List.map_append, notices]
  rfl

/-- Further ignored names take from the plan for a request what they name, in every converter, and
nothing else; if there is no plan, they do not change why. -/
theorem Resolver.plan_value_ignoring
    (resolver : Resolver) (provider : Provider) (request : PlanRequest) (more : List String) :
    (resolver.plan provider (request.ignoring more)).1.value =
      (resolver.plan provider request).1.value.map (Plan.dropping more) := by
  have source : (request.ignoring more).source = request.source := rfl
  have target : (request.ignoring more).target = request.target := rfl
  cases from_discovered : (provider.discover request.source).value with
  | error cause => simp [Resolver.plan, source, from_discovered, Except.map]
  | ok sources =>
      cases to_discovered : (provider.discover request.target).value with
      | error cause =>
          simp [Resolver.plan, source, target, from_discovered, to_discovered, Except.map]
      | ok targets =>
          rw [plan_value_of_discovered (source.symm ▸ from_discovered)
              (target.symm ▸ to_discovered),
            plan_value_of_discovered from_discovered to_discovered,
            planBetween_value, planBetween_value, planned_ignoring]
          split <;> rfl

end RecordConversion
