import Mathlib.Data.List.Basic
import RecordConversion.Proofs.Plan.FieldPairs

/-!
# Plans from a record to itself

Planned against itself, a record pairs with itself, and so does everything that it reaches if no two
of the records have one name.  Fields of one record have distinct names anyway, so each of them
pairs with itself too.  The first rule takes every such pair, whatever the type is: what is kept as
text is spelled like itself.

* `pairRecords_self`, `pairFields_self`: the pairs of a list with itself.
* `Provider.plan_itself`: the plan is to copy every field that is not ignored.
-/

namespace RecordConversion

/-- The pair of a record with itself. -/
def RecordPair.twice (record : Record) : RecordPair :=
  ⟨record, record⟩

/-- The pair of a field with itself. -/
def FieldPair.twice (field : RecordField) : FieldPair :=
  ⟨field, field⟩

/-! ## Pairs of a list with itself -/

/-- Records of distinct names pair with themselves. -/
theorem pairRecords_self
    {records : List Record} (distinct : (records.map Record.name).Nodup) :
    pairRecords records records = records.reverse.map RecordPair.twice := by
  have itself : ∀ record ∈ records,
      (records.findRev? fun other => other.name == record.name).map
        (fun other => (⟨record, other⟩ : RecordPair)) = some (.twice record) := by
    intro record member
    rw [(findRev?_eq_some_iff_of_nodup distinct).2 ⟨member, rfl⟩]
    rfl
  rw [pairRecords, List.filterMap_eq_map_iff_forall_eq_some.2 itself, List.map_reverse]

/-- Fields of distinct names pair with themselves, unless they are ignored. -/
theorem pairFields_self
    {fields : List RecordField} (distinct : (fields.map RecordField.matchKey).Nodup)
    (ignore : List String) :
    pairFields fields fields ignore =
      (fields.filter fun field => !(ignoredKeys ignore).contains field.matchKey).map
        FieldPair.twice := by
  have itself : ∀ field ∈ fields,
      (if (ignoredKeys ignore).contains field.matchKey then none
        else (fields.findRev? fun other => other.matchKey == field.matchKey).map
          fun other => (⟨field, other⟩ : FieldPair)) =
      if !(ignoredKeys ignore).contains field.matchKey then some (.twice field) else none := by
    intro field member
    rw [(findRev?_eq_some_iff_of_nodup distinct).2 ⟨member, rfl⟩]
    cases (ignoredKeys ignore).contains field.matchKey <;> rfl
  rw [pairFields, List.filterMap_congr itself, ← List.filterMap_eq_map, List.filterMap_filter]
  rfl

/-- The root pair is among the pairs by name, so nothing is put before them. -/
theorem forwardPairs_self
    {before : List Record} {root : Record}
    (distinct : ((before ++ [root]).map Record.name).Nodup) :
    forwardPairs (before ++ [root]) (before ++ [root]) =
      (before ++ [root]).reverse.map RecordPair.twice := by
  simp [forwardPairs, withRootPair, pairRecords_self distinct, RecordPair.twice]

/-- Nothing comes back from pairs of a record with itself. -/
theorem backwardPairs_twice
    (records : List Record) :
    backwardPairs (records.map RecordPair.twice) = [] := by
  simp [backwardPairs, RecordPair.twice, Record.sameIdentity]

/-! ## Copies -/

namespace Provider

variable {provider : Provider}

/-- The conversion of a field into itself is a plain assignment on its path. -/
def copyOf
    (provider : Provider) (outputPath : String) (field : RecordField) : FieldConversion :=
  ⟨provider.respell outputPath field, provider.respell outputPath field, .directAssign,
    "dst." ++ field.accessPath ++ " = src." ++ field.accessPath⟩

/-- The converter of a record into itself copies each field that is not ignored. -/
def copier
    (provider : Provider) (outputPath : String) (request : PlanRequest) (record : Record) :
    Converter where
  source := record
  target := record
  functionName := request.converterNameFor request.customName? (.twice record)
  conversions :=
    (record.fields.filter fun field => !(ignoredKeys request.ignore).contains field.matchKey).map
      (provider.copyOf outputPath)

/-- A type is spelled like itself, whether it can be expanded or not. -/
theorem alike_self
    (provider : Provider) (type : HostType) :
    provider.alike type type = true := by
  simp [alike]

/-- The first of the standard rules takes a pair of a field with itself. -/
theorem resolveField_twice
    (pairs : PairSet) (outputPath : String) (field : RecordField) :
    (Resolver.resolveField ⟨Rule.standard, pairs⟩ provider
      (provider.respellPair outputPath (.twice field))).value =
        provider.copyOf outputPath field := by
  have alike : provider.alike (provider.respellPair outputPath (.twice field)).source.type
      (provider.respellPair outputPath (.twice field)).target.type = true :=
    provider.alike_self field.type
  rw [Resolver.resolveField_of_alike alike, FieldPair.assignment_eq]
  rfl

theorem converterOf_twice
    {record : Record} (tidy : record.Tidy provider.declarations) (outputPath : String)
    (request : PlanRequest) (all : List RecordPair) :
    Resolver.converterOf Rule.standard provider outputPath request request.customName? all
      (.twice record) = provider.copier outputPath request record := by
  have fields : pairFields record.fields record.fields request.ignore = _ :=
    pairFields_self tidy.distinct request.ignore
  simp only [Resolver.converterOf, fieldPairs_eq, copier, RecordPair.twice, fields, List.map_map]
  congr 1
  exact List.map_congr_left fun field _ => resolveField_twice _ outputPath field

/-- Copies are never skipped. -/
theorem skippedFields_copier
    (outputPath : String) (request : PlanRequest) (record : Record) :
    (provider.copier outputPath request record).skippedFields = [] := by
  have none_skipped : ∀ conversion ∈ (provider.copier outputPath request record).conversions,
      ¬ conversion.isSkip = true := by
    intro conversion listed
    obtain ⟨field, -, rfl⟩ := List.mem_map.1 listed
    simp [copyOf, FieldConversion.isSkip]
  rw [Converter.skippedFields, List.filter_eq_nil_iff.2 none_skipped]
  rfl

/-! ## The plan -/

/-- The plan from a record to itself, where the records that it reaches have distinct names.  There
is one converter for each of them, from it to itself, and the root comes first.  Each copies the
fields that are not ignored, and nothing is skipped. -/
theorem plan_itself
    {request : PlanRequest} {records : List Record}
    (itself : request.target = request.source)
    (discovered : (provider.discover request.source).value = .ok records)
    (distinct : (records.map Record.name).Nodup) :
    ∃ before root, provider.record? request.source = .ok root ∧ records = before ++ [root] ∧
      (provider.plan request).value =
        .ok ⟨root.path, records.reverse.map (provider.copier root.path request), []⟩ := by
  obtain ⟨before, root, built, rfl, _⟩ := exists_root_of_discover discovered
  have discovered' : (provider.discover request.target).value = .ok (before ++ [root]) := by
    rw [itself, discovered]
  obtain ⟨plan, answered⟩ := exists_plan_of_discovered discovered discovered'
  refine ⟨before, root, built, rfl, ?_⟩
  have between := answered
  rw [Provider.plan, Resolver.plan_value_of_discovered discovered discovered'] at between
  have output : plan.outputPath = root.path := by
    simp [Resolver.outputPath_of_planBetween between]
  have converters :
      plan.converters = (before ++ [root]).reverse.map (provider.copier root.path request) := by
    rw [Resolver.converters_of_planBetween between, forwardPairs_self distinct,
      backwardPairs_twice, output, List.map_nil, List.append_nil, List.map_map]
    refine List.map_congr_left fun record member => ?_
    exact converterOf_twice (tidy_of_discover discovered (List.mem_reverse.1 member)) _ _ _
  have skipped : plan.skipped = [] := by
    rw [Resolver.skipped_of_planBetween between, converters, List.flatMap_map]
    exact List.flatMap_eq_nil_iff.2 fun record _ => skippedFields_copier _ _ record
  rw [answered, ← output, ← skipped, output, ← converters, ← output]

/-- Nodes of a graph: the next node, a grid of a fixed size, and tags of two kinds. -/
def graph : Provider where
  declarations :=
    ⟨[(⟨"m", "Node"⟩, ⟨⟨"m", "Node"⟩, .defined (.record
        [⟨"Next", .pointer (.named ⟨"m", "Node"⟩), false, true⟩,
          ⟨"Grid", .other "[4]Cell", false, true⟩, ⟨"Lost", .named ⟨"x", "Y"⟩, false, true⟩,
          ⟨"Tags", .slice (.named ⟨"m", "Tag"⟩), false, true⟩]), []⟩),
      (⟨"m", "Tag"⟩, ⟨⟨"m", "Tag"⟩, .defined (.record
        [⟨"Text", .primitive .string, false, true⟩]), []⟩)]⟩
  load path := .ok ⟨path, path, none⟩

/-- A node becomes a node, without its tags. -/
def cloneNode : PlanRequest :=
  ⟨"m", "Node", "m", "Node", some "CloneNode", ["tags"]⟩

/-- The pointer to the next node, the grid that is kept as text and the type that is declared
nowhere are copied, and so is the text of a tag. -/
theorem plan_itself_cloneNode :
    cloneNode.target = cloneNode.source ∧
    ∃ records plan, (graph.discover cloneNode.source).value = .ok records ∧
      (records.map Record.name).Nodup ∧
      (graph.plan cloneNode).value = .ok plan ∧ plan.skipped = [] ∧
      plan.converters.map (fun converter =>
          (converter.functionName, converter.conversions.map FieldConversion.expression)) =
        [("CloneNode", ["dst.Next = src.Next", "dst.Grid = src.Grid", "dst.Lost = src.Lost"]),
          ("ConvertMTagToMTag", ["dst.Text = src.Text"])] := by
  obtain ⟨records, discovered, distinct, texts⟩ :
      ∃ records, (graph.discover cloneNode.source).value = .ok records ∧
        (records.map Record.name).Nodup ∧
        (records.reverse.map (graph.copier "m" cloneNode)).map (fun converter =>
            (converter.functionName, converter.conversions.map FieldConversion.expression)) =
          [("CloneNode", ["dst.Next = src.Next", "dst.Grid = src.Grid", "dst.Lost = src.Lost"]),
            ("ConvertMTagToMTag", ["dst.Text = src.Text"])] :=
    ⟨_, rfl, by decide, rfl⟩
  obtain ⟨before, root, built, -, planned⟩ := plan_itself rfl discovered distinct
  have path : root.path = "m" := by
    cases built
    rfl
  rw [path] at planned
  exact ⟨rfl, records, _, discovered, distinct, planned, rfl, texts⟩

end Provider
end RecordConversion
