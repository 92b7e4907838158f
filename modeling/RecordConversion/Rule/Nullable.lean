import RecordConversion.Shape

/-!
# Nullable values

A nullable value is a record of a payload and a flag that says whether there is one.  The shapes of
the predeclared ones are listed with the type of the payload and the way in which the flag follows
from a plain value.
-/

namespace RecordConversion

/-- When a plain value counts as present. -/
inductive Validity where
  | always
  | nonEmptyString
  | nonZeroTime
  deriving DecidableEq, Repr

namespace Validity

/-- The condition on a value, as an expression. -/
def expression (value : String) : Validity → String
  | always => "true"
  | nonEmptyString => value ++ " != \"\""
  | nonZeroTime => "!" ++ value ++ ".IsZero()"

end Validity

/-- The type of a payload: a basic type, under one of its names, or a record. -/
inductive Payload where
  | basic (kind : Primitive) (spelling : String)
  | record (ref : QualifiedName)
  deriving DecidableEq, Repr

namespace Payload

/-- The payload type by name. -/
def text : Payload → String
  | basic _ spelling => spelling
  | record ref => ref.text

/-- The payload as a type. -/
def type : Payload → HostType
  | basic kind _ => .primitive kind
  | record ref => .named ref

/-- A shape is that of the payload, by its basic type or by its record. -/
def accepts (payload : Payload) (shape : Shape) : Bool :=
  match payload with
  | basic kind _ => shape.basic? == some kind
  | record ref => shape.recordRef? == some ref

end Payload

/-- A nullable record: its identity, its payload and its field for it. -/
structure Nullable where
  ref : QualifiedName
  payload : Payload
  field : String
  validity : Validity
  deriving DecidableEq, Repr

namespace Nullable

/-- A nullable record of the database namespace. -/
def sql
    (name : String) (payload : Payload) (field : String) (validity : Validity) : Nullable :=
  ⟨⟨"database/sql", name⟩, payload, field, validity⟩

/-- The nullable records. -/
def all : List Nullable :=
  [sql "NullString" (.basic .string "string") "String" .nonEmptyString,
   sql "NullInt64" (.basic .int64 "int64") "Int64" .always,
   sql "NullInt32" (.basic .int32 "int32") "Int32" .always,
   sql "NullInt16" (.basic .int16 "int16") "Int16" .always,
   sql "NullFloat64" (.basic .float64 "float64") "Float64" .always,
   sql "NullBool" (.basic .bool "bool") "Bool" .always,
   sql "NullByte" (.basic .uint8 "byte") "Byte" .always,
   sql "NullTime" (.record ⟨"time", "Time"⟩) "Time" .nonZeroTime]

/-- The nullable record that a shape is. -/
def ofShape? (shape : Shape) : Option Nullable :=
  shape.recordRef?.bind fun ref => all.find? fun nullable => nullable.ref == ref

end Nullable
end RecordConversion
