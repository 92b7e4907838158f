import RecordConversion.Plan.Report
import RecordConversion.Proofs.Plan.FieldPairs
import RecordConversion.Proofs.Rule.Statements

/-!
# What a report tells

A plan counts its skipped fields three times: in the conversions of its converters, in its list of
skipped fields, and in the lines of its report.  The lines are read here by what they tell, since
names may hold any text.  Under the heading of a converter stands a remark for each conversion that
it skips, and in the section of skipped fields a notice for each field of the list.

* `Plan.reportLines_eq`: the lines of a report by what they tell.
* `Plan.landmarks_layout`: the headings, remarks, notices and totals in the order of the report.
* `Resolver.plan_loses_no_pair`: conversions, skipped fields and report of a plan.
-/

namespace RecordConversion

/-- The lines of a report by what they tell. -/
inductive ReportLine where
  | opening (converters : Nat) (outputPath : String)
  | blank
  | heading (converter : Converter)
  | noFields
  | conversion (conversion : FieldConversion)
  | remark (conversion : FieldConversion)
  | statement (line : String)
  | skippedHeading
  | notice (field : SkippedField)
  | totals (converters conversions skipped : Nat)

namespace ReportLine

/-- The line as it is written. -/
def text : ReportLine → String
  | opening converters outputPath =>
    "Planning: " ++ toString converters ++ " converter(s) in " ++ outputPath
  | blank => ""
  | heading converter =>
    converter.functionName ++ " (" ++ converter.source.qualifiedName ++ " -> " ++
      converter.target.qualifiedName ++ "):"
  | noFields => "  (no matching fields)"
  | conversion done =>
    "  " ++ done.source.accessPath ++ " -> " ++ done.target.accessPath ++ " [" ++
      done.strategy.text ++ "]"
  | remark skipped =>
    "      // " ++ Plan.skipRemark ++ " " ++ skipped.source.name ++ " (" ++
      skipped.source.typeText ++ ") -> " ++ skipped.target.name ++ " (" ++
      skipped.target.typeText ++ ")"
  | statement line => "      " ++ line
  | skippedHeading => "Skipped:"
  | notice field => "  " ++ field.functionName ++ ": " ++ field.text
  | totals converters conversions skipped =>
    "Plan: " ++ toString converters ++ " converter(s), " ++ toString conversions ++
      " field(s), " ++ toString skipped ++ " skipped."

/-- The line is a heading, speaks of a skipped field, or gives the totals. -/
def isLandmark : ReportLine → Bool
  | heading _ | remark _ | skippedHeading | notice _ | totals .. => true
  | _ => false

end ReportLine

open ReportLine

/-! ## The lines of a report -/

/-- The lines of one field. -/
def FieldConversion.layout (done : FieldConversion) : List ReportLine :=
  conversion done ::
    if done.isSkip then [remark done] else (Text.lines done.expression).map statement

/-- The lines of one converter. -/
def Converter.layout (converter : Converter) : List ReportLine :=
  heading converter :: (if converter.conversions.isEmpty then [noFields] else []) ++
    converter.conversions.flatMap FieldConversion.layout

namespace Plan

/-- The section of skipped fields, if there are any. -/
def skippedSection (plan : Plan) : List ReportLine :=
  if plan.skipped.isEmpty then [] else skippedHeading :: plan.skipped.map notice

/-- The lines of the report. -/
def layout (plan : Plan) : List ReportLine :=
  opening plan.converters.length plan.outputPath ::
    plan.converters.flatMap (fun converter => blank :: converter.layout) ++
    (if plan.skipped.isEmpty then [] else blank :: plan.skippedSection) ++
    [blank, totals plan.converters.length plan.conversions.length plan.skipped.length]

theorem fieldLines_eq
    (done : FieldConversion) :
    fieldLines done = done.layout.map text := by
  rw [fieldLines, FieldConversion.layout]
  split
  · rfl
  · simp only [List.map_cons, List.map_map]
    rfl

theorem converterLines_eq
    (converter : Converter) :
    converterLines converter = converter.layout.map text := by
  have fields : converter.conversions.flatMap fieldLines =
      (converter.conversions.flatMap FieldConversion.layout).map text := by
    rw [List.map_flatMap]
    exact congrArg converter.conversions.flatMap (funext fieldLines_eq)
  rw [converterLines, Converter.layout, fields, List.map_append, List.map_cons]
  congr 2
  split <;> rfl

theorem skippedLines_eq
    (plan : Plan) :
    plan.skippedLines =
      (if plan.skipped.isEmpty then [] else blank :: plan.skippedSection).map text := by
  rw [skippedLines, skippedSection]
  split
  · rfl
  · simp only [List.map_cons, List.map_map]
    rfl

/-- The lines of a report by what they tell. -/
theorem reportLines_eq
    (plan : Plan) :
    plan.reportLines = plan.layout.map text := by
  have blocks : plan.converters.flatMap (fun converter => "" :: converterLines converter) =
      (plan.converters.flatMap fun converter => blank :: converter.layout).map text := by
    rw [List.map_flatMap]
    exact congrArg plan.converters.flatMap
      (funext fun converter => congrArg (List.cons "") (converterLines_eq converter))
  rw [reportLines, layout, blocks, skippedLines_eq, List.map_append,
    List.map_append]
  rfl

/-! ## Landmarks -/

theorem landmarks_fields
    (conversions : List FieldConversion) :
    (conversions.flatMap FieldConversion.layout).filter isLandmark =
      (conversions.filter (·.isSkip)).map remark := by
  induction conversions with
  | nil => rfl
  | cons done rest ih =>
      rw [List.flatMap_cons, List.filter_append, ih, FieldConversion.layout]
      cases skipped : done.isSkip with
      | true => simp [skipped, isLandmark, List.filter_cons]
      | false => simp [skipped, isLandmark]

theorem landmarks_converter
    (converter : Converter) :
    converter.layout.filter isLandmark =
      heading converter :: (converter.conversions.filter (·.isSkip)).map remark := by
  rw [Converter.layout, List.filter_append, landmarks_fields]
  split <;> rfl

/-- Apart from the lines of their fields and statements, a report has the heading of each converter
with the remarks about what it skips, the notices about skipped fields, and the totals. -/
theorem landmarks_layout
    (plan : Plan) :
    plan.layout.filter isLandmark =
      (plan.converters.flatMap fun converter =>
        heading converter :: (converter.conversions.filter (·.isSkip)).map remark) ++
      plan.skippedSection ++
      [totals plan.converters.length plan.conversions.length plan.skipped.length] := by
  have blocks :
      (plan.converters.flatMap fun converter => blank :: converter.layout).filter isLandmark =
        plan.converters.flatMap fun converter =>
          heading converter :: (converter.conversions.filter (·.isSkip)).map remark := by
    rw [List.filter_flatMap]
    exact congrArg plan.converters.flatMap (funext landmarks_converter)
  have section_lines :
      (if plan.skipped.isEmpty then [] else blank :: plan.skippedSection).filter isLandmark =
        plan.skippedSection := by
    rw [skippedSection]
    split
    · rfl
    · simp [isLandmark]
  rw [layout, List.filter_append, List.filter_append, section_lines, ← blocks]
  rfl

end Plan

/-! ## What a plan tells -/

/-- As many fields are listed as skipped as there are conversions that are skipped. -/
theorem length_flatMap_skippedFields
    (converters : List Converter) :
    (converters.flatMap Converter.skippedFields).length =
      ((converters.flatMap Converter.conversions).filter (·.isSkip)).length := by
  induction converters with
  | nil => rfl
  | cons converter rest ih =>
      rw [List.flatMap_cons, List.flatMap_cons, List.filter_append, List.length_append,
        List.length_append, ih, Converter.skippedFields, List.length_map]

namespace Resolver

/-- A plan by standard rules has in each converter one conversion for each field pair of the two
records, which has a statement unless it is skipped.  It lists the skipped fields converter by
converter.  Its report has a remark about each conversion that is skipped under the heading of its
converter, a notice about each field of the list, and at its end the totals. -/
theorem plan_loses_no_pair
    {resolver : Resolver} (standard : ∀ rule ∈ resolver.rules, rule ∈ Rule.standard)
    {provider : Provider} {request : PlanRequest} {plan : Plan}
    (answered : (resolver.plan provider request).1.value = .ok plan) :
    (∀ converter ∈ plan.converters,
      converter.pairs =
        (pairFields converter.source.fields converter.target.fields request.ignore).map
          (provider.respellPair plan.outputPath) ∧
      ∀ conversion ∈ converter.conversions,
        conversion.expression = "" ↔ conversion.isSkip = true) ∧
    plan.skipped =
      (plan.converters.flatMap fun converter =>
        (converter.conversions.filter (·.isSkip)).map fun conversion =>
          ⟨converter.functionName, conversion.source.name, conversion.source.typeText,
            conversion.target.name, conversion.target.typeText⟩) ∧
    plan.reportLines = plan.layout.map ReportLine.text ∧
    plan.layout.filter ReportLine.isLandmark =
      (plan.converters.flatMap fun converter =>
        heading converter :: (converter.conversions.filter (·.isSkip)).map remark) ++
      (if plan.skipped.isEmpty then [] else skippedHeading :: plan.skipped.map notice) ++
      [totals plan.converters.length plan.conversions.length
        (plan.conversions.filter (·.isSkip)).length] ∧
    plan.layout.getLast? =
      some (totals plan.converters.length plan.conversions.length
        (plan.conversions.filter (·.isSkip)).length) := by
  obtain ⟨sources, targets, made⟩ := exists_madeFrom answered
  have skipped := skipped_of_plan answered
  have count : (plan.conversions.filter (·.isSkip)).length = plan.skipped.length := by
    rw [skipped, Plan.conversions, length_flatMap_skippedFields]
  refine ⟨fun converter member => ?_, skipped, plan.reportLines_eq, ?_, ?_⟩
  · obtain ⟨rootName?, all, pair, rfl⟩ := made.exists_converterOf member
    refine ⟨pairs_converterOf pair, fun conversion here => ?_⟩
    obtain ⟨fields, -, rfl⟩ := List.mem_map.1 here
    have among_all : ∀ rule ∈ (⟨resolver.rules, .ofPairs all⟩ : Resolver).rules,
        rule ∈ Rule.standard := standard
    exact expression_eq_empty_iff among_all provider fields
  · rw [count]
    exact plan.landmarks_layout
  · rw [count, Plan.layout, List.getLast?_append]
    rfl

/-- Bills that say in two ways when they are due. -/
def bills : Provider where
  declarations :=
    ⟨[(⟨"office", "Bill"⟩, ⟨⟨"office", "Bill"⟩, .defined (.record
        [⟨"Name", .primitive .string, false, true⟩, ⟨"Due", .primitive .int, false, true⟩]), []⟩),
      (⟨"depot", "Bill"⟩, ⟨⟨"depot", "Bill"⟩, .defined (.record
        [⟨"Due", .primitive .bool, false, true⟩, ⟨"Name", .primitive .string, false, true⟩]), []⟩)]⟩
  load path := .ok ⟨path, path, none⟩

/-- By two rules in another order than the standard one, each way between the bills has a conversion
of the name and skips the other field. -/
theorem plan_loses_no_pair_bills :
    ∃ plan, ((ofRules [Rule.convertible, Rule.sameType]).plan bills
          ⟨"office", "Bill", "depot", "Bill", none, []⟩).1.value = .ok plan ∧
      plan.skipped.map (fun field => (field.functionName, field.sourceField)) =
        [("ConvertOfficeBillToDepotBill", "Due"), ("ConvertDepotBillToOfficeBill", "Due")] ∧
      plan.layout.getLast? = some (totals 2 4 2) ∧
      ∀ converter ∈ plan.converters, ∀ conversion ∈ converter.conversions,
        conversion.expression = "" ↔ conversion.isSkip = true := by
  have standard : ∀ rule ∈ (ofRules [Rule.convertible, Rule.sameType]).rules,
      rule ∈ Rule.standard := by
    simp [ofRules, Rule.standard]
  obtain ⟨plan, answered, names, numbers⟩ :
      ∃ plan, ((ofRules [Rule.convertible, Rule.sameType]).plan bills
            ⟨"office", "Bill", "depot", "Bill", none, []⟩).1.value = .ok plan ∧
        plan.skipped.map (fun field => (field.functionName, field.sourceField)) =
          [("ConvertOfficeBillToDepotBill", "Due"), ("ConvertDepotBillToOfficeBill", "Due")] ∧
        (plan.converters.length, plan.conversions.length,
          (plan.conversions.filter (·.isSkip)).length) = (2, 4, 2) :=
    ⟨_, rfl, rfl, rfl⟩
  obtain ⟨conversions, -, -, -, last⟩ := plan_loses_no_pair standard answered
  simp only [Prod.mk.injEq] at numbers
  rw [numbers.1, numbers.2.1, numbers.2.2] at last
  exact ⟨plan, answered, names, last, fun converter member => (conversions converter member).2⟩

end Resolver
end RecordConversion
