/-!
# Predeclared basic types

The primitive kinds of the host language and their numeric classes.  `byte` and `rune` are further
names of two of them.
-/

namespace RecordConversion

/-- A predeclared basic type. -/
inductive Primitive where
  | bool
  | int
  | int8
  | int16
  | int32
  | int64
  | uint
  | uint8
  | uint16
  | uint32
  | uint64
  | uintptr
  | float32
  | float64
  | complex64
  | complex128
  | string
  deriving DecidableEq, Repr, Inhabited

namespace Primitive

/-- Every basic type once. -/
def all : List Primitive :=
  [bool, int, int8, int16, int32, int64, uint, uint8, uint16, uint32, uint64, uintptr,
   float32, float64, complex64, complex128, string]

/-- The name under which a basic type is declared. -/
def name : Primitive → String
  | bool => "bool"
  | int => "int"
  | int8 => "int8"
  | int16 => "int16"
  | int32 => "int32"
  | int64 => "int64"
  | uint => "uint"
  | uint8 => "uint8"
  | uint16 => "uint16"
  | uint32 => "uint32"
  | uint64 => "uint64"
  | uintptr => "uintptr"
  | float32 => "float32"
  | float64 => "float64"
  | complex64 => "complex64"
  | complex128 => "complex128"
  | string => "string"

/-- The basic type that a predeclared name denotes. -/
def ofName? : String → Option Primitive
  | "byte" => some uint8
  | "rune" => some int32
  | text => all.find? fun kind => kind.name == text

/-- Signed and unsigned integers. -/
def isInteger : Primitive → Bool
  | int | int8 | int16 | int32 | int64 => true
  | uint | uint8 | uint16 | uint32 | uint64 | uintptr => true
  | _ => false

/-- Floating-point numbers. -/
def isFloat : Primitive → Bool
  | float32 | float64 => true
  | _ => false

/-- Complex numbers. -/
def isComplex : Primitive → Bool
  | complex64 | complex128 => true
  | _ => false

/-- Integers and floating-point numbers. -/
def isNumeric (kind : Primitive) : Bool :=
  kind.isInteger || kind.isFloat

/-- A basic type is found under its own name. -/
theorem ofName?_name
    (kind : Primitive) :
    ofName? kind.name = some kind := by
  cases kind <;> decide

end Primitive
end RecordConversion
