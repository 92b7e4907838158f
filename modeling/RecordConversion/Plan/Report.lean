import RecordConversion.Plan.Basic

/-!
# Reports of plans

A plan as a text to read: a block for each converter with the statement of each field, then the
skipped fields, then the totals.  A field that is skipped shows as a remark in place of a statement.
-/

namespace RecordConversion
namespace Plan

/-- What stands for the statement of a skipped field. -/
def skipRemark : String := "TODO: couldn't auto-generate"

/-- The lines of one field. -/
def fieldLines (conversion : FieldConversion) : List String :=
  let heading :=
    "  " ++ conversion.source.accessPath ++ " -> " ++ conversion.target.accessPath ++ " [" ++
      conversion.strategy.text ++ "]"
  if conversion.isSkip then
    [heading,
     "      // " ++ skipRemark ++ " " ++ conversion.source.name ++ " (" ++
       conversion.source.typeText ++ ") -> " ++ conversion.target.name ++ " (" ++
       conversion.target.typeText ++ ")"]
  else heading :: (Text.lines conversion.expression).map fun line => "      " ++ line

/-- The lines of one converter. -/
def converterLines (converter : Converter) : List String :=
  (converter.functionName ++ " (" ++ converter.source.qualifiedName ++ " -> " ++
      converter.target.qualifiedName ++ "):") ::
    (if converter.conversions.isEmpty then ["  (no matching fields)"] else []) ++
    converter.conversions.flatMap fieldLines

/-- The lines about skipped fields. -/
def skippedLines (plan : Plan) : List String :=
  if plan.skipped.isEmpty then []
  else
    "" :: "Skipped:" ::
      plan.skipped.map fun field => "  " ++ field.functionName ++ ": " ++ field.text

/-- The conversions of all converters. -/
def conversions (plan : Plan) : List FieldConversion :=
  plan.converters.flatMap Converter.conversions

/-- The lines of the report. -/
def reportLines (plan : Plan) : List String :=
  ("Planning: " ++ toString plan.converters.length ++ " converter(s) in " ++ plan.outputPath) ::
    plan.converters.flatMap (fun converter => "" :: converterLines converter) ++
    plan.skippedLines ++
    ["",
     "Plan: " ++ toString plan.converters.length ++ " converter(s), " ++
       toString plan.conversions.length ++ " field(s), " ++ toString plan.skipped.length ++
       " skipped."]

/-- The report. -/
def report (plan : Plan) : String :=
  Text.unlines plan.reportLines

/-- The plan as a document. -/
def toDocument (plan : Plan) : Document :=
  .object
    [("output_namespace", .text plan.outputPath),
     ("plans", .list (plan.converters.map Converter.toDocument)),
     ("skipped", .list (plan.skipped.map SkippedField.toDocument))]

end Plan
end RecordConversion
