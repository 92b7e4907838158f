import RecordConversion.Document.Reading
import RecordConversion.Document.Yaml.Reader
import RecordConversion.HostType.Basic
import RecordConversion.Text.Blank

/-!
# Planning requests

A request names the two root records and may give the name of the root converter and names of fields
that are not to be converted.  It is read from loose and from strict documents.
-/

namespace RecordConversion

/-- What is to be planned. -/
structure PlanRequest where
  sourcePath : String
  sourceType : String
  targetPath : String
  targetType : String
  /-- The name of the converter between the roots, instead of the derived one. -/
  functionName? : Option String
  ignore : List String
  deriving DecidableEq, Repr

namespace PlanRequest

/-- The record to convert from. -/
def source (request : PlanRequest) : QualifiedName :=
  ⟨request.sourcePath, request.sourceType⟩

/-- The record to convert to. -/
def target (request : PlanRequest) : QualifiedName :=
  ⟨request.targetPath, request.targetType⟩

/-- The name of the root converter, if one is given that is not blank. -/
def customName? (request : PlanRequest) : Option String :=
  request.functionName?.filter fun name => !(Text.strip name.toList).isEmpty

/-- The request that a document describes. -/
def ofDocument?
    (style : Document.Style) (document : Document) : Option PlanRequest := do
  let text := Document.readText style
  let entries ← document.readEntries
  let sourcePath ← entries |> Document.readRequired "src_namespace" text
  let sourceType ← entries |> Document.readRequired "src_type" text
  let targetPath ← entries |> Document.readRequired "dst_namespace" text
  let targetType ← entries |> Document.readRequired "dst_type" text
  let functionName? ← entries |> Document.readDefault "func_name" none (Document.readOptional text)
  let ignore ← entries |> Document.readDefault "ignore_fields" [] (Document.readList text)
  return { sourcePath, sourceType, targetPath, targetType, functionName?, ignore }

/-- The request that a text holds, given a reader of documents in some style. -/
def ofText?
    (style : Document.Style) (read : String → Option Document) (text : String) :
    Option PlanRequest :=
  (read text).bind (ofDocument? style)

/-- The request that a block-structured text holds. -/
def ofYaml? (text : String) : Option PlanRequest :=
  ofText? .loose Document.ofYaml? text

/-- The document of a request; what is absent or empty is left out. -/
def toDocument (request : PlanRequest) : Document :=
  .object
    ([("src_namespace", .text request.sourcePath), ("src_type", .text request.sourceType),
      ("dst_namespace", .text request.targetPath), ("dst_type", .text request.targetType)] ++
      Document.entry? "func_name" (request.functionName?.map .text) ++
      Document.entryIf (!request.ignore.isEmpty) "ignore_fields" (.texts request.ignore))

end PlanRequest
end RecordConversion
