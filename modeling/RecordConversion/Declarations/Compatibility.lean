import RecordConversion.Declarations.Basic

/-!
# Identity, assignability and convertibility

The relations between two types that follow from a table of declarations alone.  A basic type counts
as a named type.  A type whose expansion has no end is related only to itself.
-/

namespace RecordConversion
namespace Declarations

variable (table : Declarations)

/-- Both types expand, and to the same type. -/
def sameExpansion (a b : HostType) : Bool :=
  match table.expand? a, table.expand? b with
  | some a', some b' => a' == b'
  | _, _ => false

/-- The two types are one type once aliases are replaced. -/
def identical (a b : HostType) : Bool :=
  a == b || table.sameExpansion a b

/-- The type is a declared name or a basic type. -/
def isNamed (type : HostType) : Bool :=
  match table.resolve type with
  | .named _ | .primitive _ => true
  | _ => false

/-- A value of the first type may be stored as the second without a conversion. -/
def assignable (source target : HostType) : Bool :=
  if table.identical source target then true
  else if table.underlying target == .interface then true
  else if table.isNamed source && table.isNamed target then false
  else table.sameExpansion (table.underlying source) (table.underlying target)

/-- The type is made of bytes or of code points. -/
def isCharacter (type : HostType) : Bool :=
  match table.underlying type with
  | .primitive .uint8 | .primitive .int32 => true
  | _ => false

/-- A conversion between two underlying types with their aliases replaced: from an integer to a
string, between numbers, between complex numbers, and between strings and slices of characters. -/
def convertibleShapes : HostType → HostType → Bool
  | .primitive a, .primitive b =>
    (a.isInteger && b == .string) || (a.isNumeric && b.isNumeric) || (a.isComplex && b.isComplex)
  | .primitive .string, .slice element => table.isCharacter element
  | .slice element, .primitive .string => table.isCharacter element
  | _, _ => false

/-- The targets of two pointer types. -/
def pointerTargets? (a b : HostType) : Option (HostType × HostType) :=
  match table.resolve a, table.resolve b with
  | .pointer a', .pointer b' => some (a', b')
  | _, _ => none

/-- An explicit conversion from the first type to the second is legal. -/
def convertible (source target : HostType) : Bool :=
  if table.assignable source target then true
  else if table.sameExpansion (table.underlying source) (table.underlying target) then true
  else
    match table.pointerTargets? source target with
    | some (a, b) => table.sameExpansion (table.underlying a) (table.underlying b)
    | none =>
      match table.expand? (table.underlying source), table.expand? (table.underlying target) with
      | some a, some b => table.convertibleShapes a b
      | _, _ => false

end Declarations
end RecordConversion
