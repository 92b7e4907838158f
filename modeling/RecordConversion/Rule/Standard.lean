import RecordConversion.ConverterName
import RecordConversion.Rule.Basic
import RecordConversion.Rule.Nullable

/-!
# The standard rules

In order, the most specific first: identical types, casts between basic types, pointers to and from
values that are no records, nullable values, times as text, records with a converter of their own,
slices element by element, types with a text of their own, assignable types, and as a last resort
casts between basic types or records.

Statements are written over `src.<path>` and `dst.<path>`.
-/

namespace RecordConversion

namespace FieldPair

/-- The source field in a statement. -/
def value (pair : FieldPair) : String :=
  "src." ++ pair.source.accessPath

/-- The target field in a statement. -/
def place (pair : FieldPair) : String :=
  "dst." ++ pair.target.accessPath

end FieldPair

/-! ## Statements -/

/-- One place is set to a value. -/
def assignment (place value : String) : String :=
  place ++ " = " ++ value

/-- One place is set to a value cast to a type. -/
def castAssignment (place type value : String) : String :=
  place ++ " = (" ++ type ++ ")(" ++ value ++ ")"

/-- A statement that is carried out under a condition. -/
def guarded (condition statement : String) : String :=
  "if " ++ condition ++ " \x7b\n" ++ statement ++ "\n\x7d"

/-- A converter is called on a value and its result stored; addresses are taken and results
dereferenced as the two sides need. -/
def delegation
    (converter source : String) (fromPointer : Bool) (target : String) (toPointer : Bool) :
    String :=
  let argument := if fromPointer then source else "&" ++ source
  let call := converter ++ "(" ++ argument ++ ")"
  if toPointer then assignment target call
  else guarded ("v := " ++ call ++ "; v != nil") (assignment target "*v")

/-- A slice is made as long as another and filled element by element. -/
def sliceLoop (source target targetType body : String) : String :=
  guarded (source ++ " != nil")
    (assignment target ("make(" ++ targetType ++ ", len(" ++ source ++ "))") ++ "\n" ++
      "for i := range " ++ source ++ " \x7b\n" ++ body ++ "\n\x7d")

/-- A text without the given characters before it. -/
def withoutLead (lead text : String) : String :=
  if lead.toList.isPrefixOf text.toList then String.ofList (text.toList.drop lead.length) else text

/-! ## What the rules ask -/

namespace Provider

variable (provider : Provider)

/-- The two types are identical, or spelled alike. -/
def alike (a b : HostType) : Bool :=
  provider.identical a b || a.text == b.text

/-- The target of a pointer type, seen through names. -/
def pointerTarget? (type : HostType) : Option HostType :=
  match provider.declarations.underlying type with
  | .pointer target => some target
  | _ => none

/-- The element of a slice type, seen through names. -/
def sliceElement? (type : HostType) : Option HostType :=
  match provider.declarations.underlying type with
  | .slice element => some element
  | _ => none

end Provider

namespace Shape

/-- The shape is that of a point in time. -/
def isTime (shape : Shape) : Bool :=
  shape.recordRef? == some ⟨"time", "Time"⟩

/-- What the shape leads to is a record. -/
def elementIsRecord (shape : Shape) : Bool :=
  shape.element?.any fun element => element.kind == .record

/-- What the shape leads to is basic. -/
def elementIsBasic (shape : Shape) : Bool :=
  shape.element?.any Shape.isBasic

/-- A named record, directly or through one pointer; the flag tells which. -/
def recordOrPointer? : Shape → Option (QualifiedName × Bool)
  | .pointer element _ _ => element.recordRef?.map fun ref => (ref, true)
  | shape => shape.recordRef?.map fun ref => (ref, false)

/-- The records or record pointers that are the elements of a slice. -/
def sliceOfRecords? (shape : Shape) : Option (QualifiedName × Bool) :=
  shape.sliceElement?.bind recordOrPointer?

end Shape

namespace Rule

/-! ## The rules one by one -/

/-- Identical types are assigned. -/
def sameType : Rule where
  name := "same-type"
  needsPairSet := false
  convert? context pair :=
    if context.provider.alike pair.source.type pair.target.type then
      some (.directAssign, assignment pair.place pair.value)
    else none

/-- A basic type is cast to another one that it converts to. -/
def basicCast : Rule where
  name := "basic-cast"
  needsPairSet := false
  convert? context pair :=
    if pair.source.shape.isBasic && pair.target.shape.isBasic &&
        !context.provider.alike pair.source.type pair.target.type &&
        context.provider.convertible pair.source.type pair.target.type then
      some (.basicCast, castAssignment pair.place pair.target.typeText pair.value)
    else none

/-- A pointer is followed for the value of its target type, or of a basic type that this converts
to; records behind pointers are left to other rules. -/
def unwrap?
    (provider : Provider) (pair : FieldPair) (target : HostType) : Option (Strategy × String) :=
  let condition := pair.value ++ " != nil"
  if provider.alike target pair.target.type then
    some (.pointerUnwrap, guarded condition (assignment pair.place ("*" ++ pair.value)))
  else if pair.source.shape.elementIsRecord then none
  else if provider.convertible target pair.target.type && pair.source.shape.elementIsBasic &&
      pair.target.shape.isBasic then
    some
      (.pointerUnwrap,
        guarded condition
          (assignment pair.place (pair.target.typeText ++ "(*" ++ pair.value ++ ")")))
  else none

/-- A pointer is made to a value of its target type, or to a basic value cast to it; records behind
pointers are left to other rules. -/
def wrap?
    (provider : Provider) (pair : FieldPair) (target : HostType) : Option (Strategy × String) :=
  if provider.alike pair.source.type target then
    some (.pointerWrap, assignment pair.place ("&" ++ pair.value))
  else if pair.target.shape.elementIsRecord then none
  else if provider.convertible pair.source.type target && pair.source.shape.isBasic &&
      pair.target.shape.elementIsBasic then
    some
      (.pointerWrap,
        "\x7b\nv := " ++ withoutLead "*" pair.target.typeText ++ "(" ++ pair.value ++ ")\n" ++
          assignment pair.place "&v" ++ "\n\x7d")
  else none

/-- A pointer on one side only is followed or made. -/
def pointer : Rule where
  name := "pointer"
  needsPairSet := false
  convert? context pair :=
    let provider := context.provider
    match provider.pointerTarget? pair.source.type, provider.pointerTarget? pair.target.type with
    | some target, none => unwrap? provider pair target
    | none, some target => wrap? provider pair target
    | _, _ => none

/-- The payload of a nullable source is taken out if there is one. -/
def payloadOf? (pair : FieldPair) : Option (Strategy × String) :=
  (Nullable.ofShape? pair.source.shape).bind fun nullable =>
    if nullable.payload.accepts pair.target.shape then
      some
        (.nullableToValue,
          guarded (pair.value ++ ".Valid")
            (assignment pair.place (pair.value ++ "." ++ nullable.field)))
    else none

/-- A plain source is put into a nullable target. -/
def nullableOf? (pair : FieldPair) : Option (Strategy × String) :=
  (Nullable.ofShape? pair.target.shape).bind fun nullable =>
    if nullable.payload.accepts pair.source.shape then
      some
        (.valueToNullable,
          assignment pair.place
            (pair.target.typeText ++ "\x7b" ++ nullable.field ++ ": " ++ pair.value ++
              ", Valid: " ++ nullable.validity.expression pair.value ++ "\x7d"))
    else none

/-- Nullable values are taken apart and put together. -/
def nullable : Rule where
  name := "nullable"
  needsPairSet := false
  convert? _ pair := (payloadOf? pair).or (nullableOf? pair)

/-- Points in time are written as text and read from it. -/
def timeString : Rule where
  name := "time-string"
  needsPairSet := false
  convert? _ pair :=
    if pair.source.shape.isTime && pair.target.shape.isString then
      some (.timeToString, assignment pair.place (pair.value ++ ".Format(time.RFC3339)"))
    else if pair.source.shape.isString && pair.target.shape.isTime then
      some
        (.stringToTime,
          guarded ("parsed, err := time.Parse(time.RFC3339, " ++ pair.value ++ "); err == nil")
            (assignment pair.place "parsed"))
    else none

/-- The statement for two records or record pointers that have a converter. -/
def delegateRecord?
    (pairs : PairSet) (pair : FieldPair) (source target : QualifiedName × Bool) :
    Option (Strategy × String) :=
  if pairs.contains source.1 target.1 then
    some
      (if source.2 || target.2 then .nestedStructPointerConvert else .nestedStructConvert,
        delegation (converterName source.1 target.1) pair.value source.2 pair.place target.2)
  else none

/-- The statement for two slices of records or record pointers that have a converter. -/
def delegateSlice?
    (pairs : PairSet) (pair : FieldPair) (source target : QualifiedName × Bool) :
    Option (Strategy × String) :=
  if pairs.contains source.1 target.1 then
    some
      (.nestedSliceConvert,
        sliceLoop pair.value pair.place pair.target.typeText
          (delegation (converterName source.1 target.1) (pair.value ++ "[i]") source.2
            (pair.place ++ "[i]") target.2))
  else none

/-- Records that have a converter of their own are left to it. -/
def nestedStruct : Rule where
  name := "nested-struct"
  needsPairSet := true
  convert? context pair :=
    (context.nested?.filter fun pairs => !pairs.isEmpty).bind fun pairs =>
      match pair.source.shape.recordOrPointer?, pair.target.shape.recordOrPointer? with
      | some source, some target => delegateRecord? pairs pair source target
      | _, _ =>
        match pair.source.shape.sliceOfRecords?, pair.target.shape.sliceOfRecords? with
        | some source, some target => delegateSlice? pairs pair source target
        | _, _ => none

/-- Slices of anything but records are copied or cast element by element. -/
def sliceConvert : Rule where
  name := "slice-convert"
  needsPairSet := false
  convert? context pair :=
    let provider := context.provider
    match provider.sliceElement? pair.source.type, provider.sliceElement? pair.target.type with
    | some source, some target =>
      if pair.source.shape.element?.isNone || pair.target.shape.element?.isNone then none
      else if pair.source.shape.elementIsRecord || pair.target.shape.elementIsRecord then none
      else
        let item := pair.value ++ "[i]"
        let cell := pair.place ++ "[i]"
        if provider.alike source target then
          some
            (.directAssign,
              sliceLoop pair.value pair.place pair.target.typeText (assignment cell item))
        else if provider.convertible source target then
          some
            (.sliceElementConvert,
              sliceLoop pair.value pair.place pair.target.typeText
                (assignment cell
                  (withoutLead "[]" pair.target.typeText ++ "(" ++ item ++ ")")))
        else none
    | _, _ => none

/-- A type with a text of its own gives a string. -/
def stringer : Rule where
  name := "stringer"
  needsPairSet := false
  convert? context pair :=
    if pair.target.shape.isString && context.provider.supportsStringer pair.source.type then
      let call := assignment pair.place (pair.value ++ ".String()")
      if (context.provider.pointerTarget? pair.source.type).isSome then
        some (.customMethodCall, guarded (pair.value ++ " != nil") call)
      else some (.customMethodCall, call)
    else none

/-- Assignable types are assigned. -/
def assignable : Rule where
  name := "assignable"
  needsPairSet := false
  convert? context pair :=
    if context.provider.assignable pair.source.type pair.target.type then
      some (.directAssign, assignment pair.place pair.value)
    else none

/-- A shape that the last rule casts. -/
def castsAsLastResort (shape : Shape) : Bool :=
  shape.kind == .basic || shape.kind == .record

/-- Basic types and records are cast where this is legal. -/
def convertible : Rule where
  name := "convertible"
  needsPairSet := false
  convert? context pair :=
    if castsAsLastResort pair.source.shape && castsAsLastResort pair.target.shape &&
        context.provider.convertible pair.source.type pair.target.type then
      some (.basicCast, castAssignment pair.place pair.target.typeText pair.value)
    else none

/-- The rules in the order in which they are tried. -/
def standard : List Rule :=
  [sameType, basicCast, pointer, nullable, timeString, nestedStruct, sliceConvert, stringer,
   assignable, convertible]

end Rule
end RecordConversion
