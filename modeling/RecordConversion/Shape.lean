import RecordConversion.Declarations.Basic
import RecordConversion.Document.Basic

/-!
# Shapes of types

The shape of a type is what the conversion rules look at: one of seven kinds, the shapes of its
parts, and the name it goes by.  Names are seen through down to their structure while their own
identity is kept, so a defined record is a record with a namespace and a name, and a defined string
is a basic shape with a namespace.

`Declarations.shapeOf` is total on every table: a name met again inside its own expansion, and a
chain of names that is too long, have no structure and become the `other` shape.
-/

namespace RecordConversion

/-- The structure of a type.  `home` is the namespace of the name it goes by and empty if it has
none; `display` is its spelling. -/
inductive Shape where
  | basic (kind : Primitive) (home display : String)
  | pointer (element : Shape) (home display : String)
  | slice (element : Shape) (home display : String)
  | map (key element : Shape) (home display : String)
  | record (home name display : String)
  | interface (home display : String)
  | other (home display : String)
  deriving DecidableEq, Repr, Inhabited

/-- The seven kinds of shapes. -/
inductive ShapeKind where
  | basic
  | pointer
  | record
  | slice
  | map
  | interface
  | other
  deriving DecidableEq, Repr

namespace ShapeKind

/-- The word for a kind. -/
def text : ShapeKind → String
  | basic => "basic"
  | pointer => "pointer"
  | record => "struct"
  | slice => "slice"
  | map => "map"
  | interface => "interface"
  | other => "other"

end ShapeKind

namespace Shape

/-! ## Parts of a shape -/

/-- The kind of a shape. -/
def kind : Shape → ShapeKind
  | .basic .. => .basic
  | .pointer .. => .pointer
  | .slice .. => .slice
  | .map .. => .map
  | .record .. => .record
  | .interface .. => .interface
  | .other .. => .other

/-- The namespace of the name that the type goes by. -/
def home : Shape → String
  | .basic _ home _ => home
  | .pointer _ home _ => home
  | .slice _ home _ => home
  | .map _ _ home _ => home
  | .record home _ _ => home
  | .interface home _ => home
  | .other home _ => home

/-- The spelling of the type. -/
def display : Shape → String
  | .basic _ _ display => display
  | .pointer _ _ display => display
  | .slice _ _ display => display
  | .map _ _ _ display => display
  | .record _ _ display => display
  | .interface _ display => display
  | .other _ display => display

/-- The shape of what a pointer, slice or map leads to. -/
def element? : Shape → Option Shape
  | .pointer element _ _ => some element
  | .slice element _ _ => some element
  | .map _ element _ _ => some element
  | _ => none

/-- The shape of the keys of a map. -/
def key? : Shape → Option Shape
  | .map key _ _ _ => some key
  | _ => none

/-- The basic type of a basic shape. -/
def basic? : Shape → Option Primitive
  | .basic kind _ _ => some kind
  | _ => none

/-- The shape is basic. -/
def isBasic (shape : Shape) : Bool :=
  shape.basic?.isSome

/-- The shape is that of a string. -/
def isString (shape : Shape) : Bool :=
  shape.basic? == some .string

/-- The name of a named record. -/
def recordName : Shape → String
  | .record _ name _ => name
  | _ => ""

/-- The record that a shape is, if the record has a namespace and a name. -/
def recordRef? : Shape → Option QualifiedName
  | .record home name _ => if home.isEmpty || name.isEmpty then none else some ⟨home, name⟩
  | _ => none

/-- The shape that a pointer leads to. -/
def pointee? : Shape → Option Shape
  | .pointer element _ _ => some element
  | _ => none

/-- The shape of the elements of a slice. -/
def sliceElement? : Shape → Option Shape
  | .slice element _ _ => some element
  | _ => none

/-- The record that a shape refers to through any pointers and slices. -/
def nestedRecord? : Shape → Option QualifiedName
  | .record home name display => (Shape.record home name display).recordRef?
  | .pointer element _ _ => element.nestedRecord?
  | .slice element _ _ => element.nestedRecord?
  | _ => none

/-! ## The shape of a type -/

/-- The shape of a type, given the shapes of names. -/
def ofType (ofName : QualifiedName → Shape) : HostType → Shape
  | .primitive kind => .basic kind "" kind.name
  | .pointer target =>
    let element := ofType ofName target
    .pointer element "" ("*" ++ element.display)
  | .slice type =>
    let element := ofType ofName type
    .slice element "" ("[]" ++ element.display)
  | .map keyType type =>
    let key := ofType ofName keyType
    let element := ofType ofName type
    .map key element "" ("map[" ++ key.display ++ "]" ++ element.display)
  | .interface => .interface "" "interface"
  | .record body => .record "" "" (HostType.record body).text
  | .other spelling => .other "" spelling
  | .named ref => ofName ref

/-- The shape of a defined name over an underlying type, given the shapes of types. -/
def ofDefined
    (ref : QualifiedName) (shapeOf : HostType → Shape) : HostType → Shape
  | .record _ => .record ref.path ref.name ref.text
  | .primitive kind => .basic kind ref.path ref.text
  | .pointer target => .pointer (shapeOf target) ref.path ref.text
  | .slice element => .slice (shapeOf element) ref.path ref.text
  | .map key element => .map (shapeOf key) (shapeOf element) ref.path ref.text
  | .interface => .interface ref.path ref.text
  | .named _ | .other _ => .other ref.path ref.text

end Shape

namespace Declarations

variable (table : Declarations)

/-- The shape of a type while the given names are being expanded, with room for so many more. -/
def shapeWithin : Nat → List QualifiedName → HostType → Shape
  | 0, _, type => .other "" type.text
  | room + 1, path, type =>
    type |> Shape.ofType fun ref =>
      match table.lookup ref with
      | none => .other "" ref.text
      | some declaration =>
        if path.contains ref then .other "" ref.text
        else
          match declaration.definition with
          | .alias target => shapeWithin room (ref :: path) target
          | .defined _ =>
            Shape.ofDefined ref (shapeWithin room (ref :: path)) (table.underlying (.named ref))

/-- The shape of a type. -/
def shapeOf (type : HostType) : Shape :=
  table.shapeWithin (expansionLimit + 1) [] type

end Declarations

namespace Shape

/-! ## As a document -/

/-- The shape with its parts, as an object. -/
def toDocument : Shape → Document
  | .basic kind home display =>
    .object
      [("kind", .text ShapeKind.basic.text), ("namespace", .text home), ("struct_name", .text ""),
       ("basic_kind", .text kind.name), ("display_name", .text display)]
  | .pointer element home display =>
    .object
      [("kind", .text ShapeKind.pointer.text), ("element", element.toDocument),
       ("namespace", .text home), ("struct_name", .text ""), ("display_name", .text display)]
  | .slice element home display =>
    .object
      [("kind", .text ShapeKind.slice.text), ("element", element.toDocument),
       ("namespace", .text home), ("struct_name", .text ""), ("display_name", .text display)]
  | .map key element home display =>
    .object
      [("kind", .text ShapeKind.map.text), ("element", element.toDocument),
       ("key", key.toDocument), ("namespace", .text home), ("struct_name", .text ""),
       ("display_name", .text display)]
  | .record home name display =>
    .object
      [("kind", .text ShapeKind.record.text), ("namespace", .text home),
       ("struct_name", .text name), ("display_name", .text display)]
  | .interface home display =>
    .object
      [("kind", .text ShapeKind.interface.text), ("namespace", .text home),
       ("struct_name", .text ""), ("display_name", .text display)]
  | .other home display =>
    .object
      [("kind", .text ShapeKind.other.text), ("namespace", .text home), ("struct_name", .text ""),
       ("display_name", .text display)]

end Shape
end RecordConversion
