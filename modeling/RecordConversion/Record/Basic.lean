import RecordConversion.Shape
import RecordConversion.Text.Segment

/-!
# Records and their fields

A record is a declared type whose fields have been brought together, those of embedded members
included.  A field knows the path on which it is reached, and its type in three forms: the type
itself, its spelling in generated code, and its shape.
-/

namespace RecordConversion

/-- A field that a record offers. -/
structure RecordField where
  name : String
  /-- The names of the embedded members on the way to the field, and its own, with dots. -/
  accessPath : String
  /-- The spelling of the type in generated code. -/
  typeText : String
  shape : Shape
  type : HostType
  visible : Bool
  /-- The embedded record that declares the field, or nothing. -/
  embeddedFrom : String
  deriving DecidableEq, Repr

/-- A record with its fields in order. -/
structure Record where
  name : String
  path : String
  localName : String
  fields : List RecordField
  deriving DecidableEq, Repr

/-- A record to convert from and a record to convert to. -/
structure RecordPair where
  source : Record
  target : Record
  deriving DecidableEq, Repr

namespace RecordField

/-- The field as a document; the type itself is not written. -/
def toDocument (field : RecordField) : Document :=
  .object
    ([("name", .text field.name), ("access_path", .text field.accessPath),
      ("type_display", .text field.typeText), ("descriptor", field.shape.toDocument),
      ("visible", .flag field.visible)] ++
      Document.entryIf (!field.embeddedFrom.isEmpty) "embedded_from" (.text field.embeddedFrom))

end RecordField

namespace Record

/-- The identity of a record. -/
def key (record : Record) : QualifiedName :=
  ⟨record.path, record.name⟩

/-- Two records with one identity. -/
def sameIdentity (a b : Record) : Bool :=
  a.key == b.key

/-- The name of a record as seen from elsewhere. -/
def qualifiedName (record : Record) : String :=
  if record.localName.isEmpty then record.name else record.localName ++ "." ++ record.name

/-- The records that the fields refer to, through any pointers and slices. -/
def references (record : Record) : List QualifiedName :=
  record.fields.filterMap fun field => field.shape.nestedRecord?

/-- The record as a document. -/
def toDocument (record : Record) : Document :=
  .object
    [("name", .text record.name), ("namespace", .text record.path),
     ("namespace_local_name", .text record.localName),
     ("fields", .list (record.fields.map RecordField.toDocument))]

/-- The line of one field in a text report. -/
def fieldLine (field : RecordField) : String :=
  "  " ++ field.accessPath ++ " " ++ field.typeText ++
    if field.embeddedFrom.isEmpty then "" else "  (via " ++ field.embeddedFrom ++ ")"

/-- The lines of a record in a text report. -/
def lines (record : Record) : List String :=
  (record.qualifiedName ++ " (" ++ record.path ++ ")") :: record.fields.map fieldLine

/-- The text report of records, with their number at its end. -/
def report (records : List Record) : String :=
  Text.unlines (records.flatMap lines ++ [toString records.length ++ " record(s)"])

end Record

namespace RecordPair

/-- The identities of both records. -/
def keys (pair : RecordPair) : QualifiedName × QualifiedName :=
  (pair.source.key, pair.target.key)

/-- The pair for the way back. -/
def reversed (pair : RecordPair) : RecordPair :=
  ⟨pair.target, pair.source⟩

end RecordPair
end RecordConversion
