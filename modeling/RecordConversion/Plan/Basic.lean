import RecordConversion.Plan.Request
import RecordConversion.Record.Discovery
import RecordConversion.Resolver

/-!
# Conversion plans

A plan has a converter for every record pair that two roots reach, in both directions: first the
root pair and the others from the roots down, then the way back for every pair of two different
records.  Fields that cannot be converted are listed and warned about.
-/

namespace RecordConversion

/-- The side of a conversion. -/
inductive Side where
  | source
  | target
  deriving DecidableEq, Repr

namespace Side

/-- The word for a side. -/
def text : Side → String
  | source => "src"
  | target => "dst"

end Side

/-- No plan can be made. -/
inductive PlanError where
  | discovery (side : Side) (cause : DiscoveryError)
  | noMatch (source target : String)
  deriving DecidableEq, Repr

namespace PlanError

/-- The error in words. -/
def message : PlanError → String
  | discovery side cause => "discover " ++ side.text ++ ": " ++ cause.message
  | noMatch source target =>
    "no matching records found between " ++ Text.quoted source ++ " and " ++ Text.quoted target

end PlanError

/-- A converter between two records, field by field. -/
structure Converter where
  source : Record
  target : Record
  functionName : String
  conversions : List FieldConversion
  deriving DecidableEq, Repr

/-- A field pair that is not converted. -/
structure SkippedField where
  functionName : String
  sourceField : String
  sourceType : String
  targetField : String
  targetType : String
  deriving DecidableEq, Repr

/-- The converters between two roots and what they reach. -/
structure Plan where
  /-- The namespace in which the converters are to stand. -/
  outputPath : String
  converters : List Converter
  skipped : List SkippedField
  deriving DecidableEq, Repr

namespace SkippedField

/-- The notice about a skipped field. -/
def text (field : SkippedField) : String :=
  "field " ++ Text.quoted field.sourceField ++ " (" ++ field.sourceType ++ ") -> " ++
    Text.quoted field.targetField ++ " (" ++ field.targetType ++
    "): conversion not supported, skipped"

/-- The notice for a conversion that is skipped in a converter. -/
def ofConversion
    (functionName : String) (conversion : FieldConversion) : SkippedField :=
  ⟨functionName, conversion.source.name, conversion.source.typeText, conversion.target.name,
    conversion.target.typeText⟩

/-- The skipped field as a document. -/
def toDocument (field : SkippedField) : Document :=
  .object
    [("function_name", .text field.functionName), ("src_field", .text field.sourceField),
     ("src_type", .text field.sourceType), ("dst_field", .text field.targetField),
     ("dst_type", .text field.targetType)]

end SkippedField

namespace Converter

/-- The identities of the two records. -/
def keys (converter : Converter) : QualifiedName × QualifiedName :=
  (converter.source.key, converter.target.key)

/-- The fields that the converter does not convert. -/
def skippedFields (converter : Converter) : List SkippedField :=
  (converter.conversions.filter (·.isSkip)).map (SkippedField.ofConversion converter.functionName)

/-- The converter as a document. -/
def toDocument (converter : Converter) : Document :=
  .object
    [("src", converter.source.toDocument), ("dst", converter.target.toDocument),
     ("function_name", .text converter.functionName),
     ("plans", .list (converter.conversions.map FieldConversion.toDocument))]

end Converter

namespace Event

/-- A plan is done. -/
def plannedConversions (plan : Plan) : Event :=
  ⟨.info, "planned conversions",
    [("converters", toString plan.converters.length), ("skipped", toString plan.skipped.length)]⟩

/-- A field is not converted. -/
def fieldSkipped (field : SkippedField) : Event :=
  warning field.text

end Event

/-! ## Pairs to convert -/

/-- Pairs of which each pair of identities comes once, the first time it is met. -/
def distinctPairs :
    List (QualifiedName × QualifiedName) → List RecordPair → List RecordPair
  | _, [] => []
  | seen, pair :: rest =>
    if seen.contains pair.keys then distinctPairs seen rest
    else pair :: distinctPairs (pair.keys :: seen) rest

/-- The pairs with that of the two roots among them: put first if it is missing. -/
def withRootPair
    (sourceRoot? targetRoot? : Option Record) (pairs : List RecordPair) : List RecordPair :=
  match sourceRoot?, targetRoot? with
  | some source, some target =>
    let root : RecordPair := ⟨source, target⟩
    if pairs.any fun pair => pair.keys == root.keys then pairs
    else distinctPairs [] (root :: pairs)
  | _, _ => pairs

/-- The pairs for the way back: those of two different records. -/
def backwardPairs (forward : List RecordPair) : List RecordPair :=
  (forward.filter fun pair => !pair.source.sameIdentity pair.target).map RecordPair.reversed

namespace Provider

/-- The field pairs of a record pair, with their types spelled for a namespace. -/
def fieldPairs
    (provider : Provider) (outputPath : String) (ignore : List String) (pair : RecordPair) :
    List FieldPair :=
  let respell (field : RecordField) : RecordField :=
    { field with typeText := provider.spell outputPath field.type }
  (pairFields pair.source.fields pair.target.fields ignore).map fun fields =>
    ⟨respell fields.source, respell fields.target⟩

end Provider

namespace PlanRequest

/-- The name of the converter for a record pair, given the name for the root pair if it has one. -/
def converterNameFor
    (request : PlanRequest) (rootName? : Option String) (pair : RecordPair) : String :=
  match rootName? with
  | some name =>
    if pair.source.name = request.sourceType ∧ pair.target.name = request.targetType then name
    else converterName pair.source.key pair.target.key
  | none => converterName pair.source.key pair.target.key

end PlanRequest

namespace Resolver

/-- The converter of a record pair among the pairs of its direction. -/
def convertPair
    (resolver : Resolver) (provider : Provider) (outputPath : String) (request : PlanRequest)
    (rootName? : Option String) (all : List RecordPair) (pair : RecordPair) :
    Logged Converter × Resolver :=
  let fields := provider.fieldPairs outputPath request.ignore pair
  let (conversions, after) := resolver.resolve provider fields all
  let converter : Converter :=
    ⟨pair.source, pair.target, request.converterNameFor rootName? pair, conversions.value⟩
  (⟨converter, conversions.events ++ converter.skippedFields.map .fieldSkipped⟩, after)

/-- The converters of record pairs among the pairs of their direction, in order. -/
def convertPairs
    (resolver : Resolver) (provider : Provider) (outputPath : String) (request : PlanRequest)
    (rootName? : Option String) (all : List RecordPair) :
    List RecordPair → Logged (List Converter) × Resolver
  | [] => (.quiet [], resolver)
  | pair :: rest =>
    let (first, after) := resolver.convertPair provider outputPath request rootName? all pair
    let (others, last) := after.convertPairs provider outputPath request rootName? all rest
    (⟨first.value :: others.value, first.events ++ others.events⟩, last)

/-- The plan between records that have been discovered, each list with its root last. -/
def planBetween
    (resolver : Resolver) (provider : Provider) (request : PlanRequest)
    (sources targets : List Record) : Logged (Except PlanError Plan) × Resolver :=
  let forward :=
    withRootPair sources.getLast? targets.getLast? (pairRecords sources targets)
  if forward.isEmpty then
    (.quiet (.error (.noMatch request.sourceType request.targetType)), resolver)
  else
    let outputPath := (sources.getLast?.map (·.path)).getD request.sourcePath
    let (there, between) :=
      resolver.convertPairs provider outputPath request request.customName? forward forward
    let backward := backwardPairs forward
    let (back, after) := between.convertPairs provider outputPath request none backward backward
    let converters := there.value ++ back.value
    let plan : Plan := ⟨outputPath, converters, converters.flatMap Converter.skippedFields⟩
    (⟨.ok plan, there.events ++ back.events ++ [.plannedConversions plan]⟩, after)

/-- The plan for a request, and the resolver after it. -/
def plan
    (resolver : Resolver) (provider : Provider) (request : PlanRequest) :
    Logged (Except PlanError Plan) × Resolver :=
  let sources := provider.discover request.source
  match sources.value with
  | .error cause => (⟨.error (.discovery .source cause), sources.events⟩, resolver)
  | .ok sourceRecords =>
    let targets := provider.discover request.target
    match targets.value with
    | .error cause =>
      (⟨.error (.discovery .target cause), sources.events ++ targets.events⟩, resolver)
    | .ok targetRecords =>
      let (result, after) := resolver.planBetween provider request sourceRecords targetRecords
      (result.after (sources.events ++ targets.events), after)

end Resolver

namespace Provider

/-- The plan for a request by the standard rules. -/
def plan
    (provider : Provider) (request : PlanRequest) : Logged (Except PlanError Plan) :=
  (Resolver.standard.plan provider request).1

end Provider
end RecordConversion
