import RecordConversion.HostType.Basic

/-!
# Declarations and what names stand for

A declaration makes a name either an alias of a type or a new type over a given one.  A table of
declarations gives three readings of a type:

* `resolve` follows aliases at the top of a type, and gives up after a fixed number of steps;
* `underlying` follows aliases and defined names down to a type that is no declared name;
* `expand?` replaces the aliases at every depth and keeps the defined names.

Expansion has no step limit.  Its depth is bounded by the size of the type and of all alias targets
unless some alias mentions itself, and then there is no expanded type.
-/

namespace RecordConversion

/-- What a declared name stands for. -/
inductive Definition where
  /-- The name and the target are the same type. -/
  | alias (target : HostType)
  /-- The name is a new type over the given one. -/
  | defined (body : HostType)
  deriving DecidableEq, Repr

namespace Definition

/-- The type that a definition gives for the name. -/
def type : Definition → HostType
  | .alias target => target
  | .defined body => body

end Definition

/-- A method declared on a named type. -/
structure Method where
  name : String
  params : List HostType
  returns : List HostType
  onPointer : Bool
  deriving DecidableEq, Repr

/-- The declaration of a named type. -/
structure Declaration where
  ref : QualifiedName
  definition : Definition
  methods : List Method
  deriving DecidableEq, Repr

namespace Declaration

/-- The declaration makes its name an alias. -/
def isAlias (declaration : Declaration) : Bool :=
  match declaration.definition with
  | .alias _ => true
  | .defined _ => false

end Declaration

/-- Declarations under the names by which they are looked up. -/
structure Declarations where
  entries : List (QualifiedName × Declaration)
  deriving Repr

/-- The number of steps after which a chain of names counts as unresolvable. -/
def expansionLimit : Nat := 64

namespace Declarations

variable (table : Declarations)

/-- The declaration of a name. -/
def lookup (ref : QualifiedName) : Option Declaration :=
  table.entries.lookup ref

/-! ## Aliases at the top of a type -/

/-- The target of a type that is the name of an alias. -/
def aliasTarget? : HostType → Option HostType
  | .named ref =>
    match table.lookup ref with
    | some ⟨_, .alias target, _⟩ => some target
    | _ => none
  | _ => none

/-- The end of a chain of aliases, if fewer than the given number of steps lead there. -/
def resolveWithin : Nat → HostType → Option HostType
  | 0, _ => none
  | steps + 1, type =>
    match table.aliasTarget? type with
    | none => some type
    | some target => resolveWithin steps target

/-- The type behind the aliases at the top of a type; the text of the type if there are too many. -/
def resolve (type : HostType) : HostType :=
  (table.resolveWithin expansionLimit type).getD (.other type.text)

/-! ## Underlying types -/

/-- The type that the declaration of a name gives for it. -/
def definitionOf? : HostType → Option HostType
  | .named ref => (table.lookup ref).map fun declaration => declaration.definition.type
  | _ => none

/-- The end of a chain of declared names, if fewer than the given number of steps lead there. -/
def underlyingWithin : Nat → HostType → Option HostType
  | 0, _ => none
  | steps + 1, type =>
    match table.definitionOf? type with
    | none => some type
    | some body => underlyingWithin steps (table.resolve body)

/-- The structural type behind a name.  Undeclared names stay; chains that are too long become the
text of the type. -/
def underlying (type : HostType) : HostType :=
  (table.underlyingWithin expansionLimit (table.resolve type)).getD (.other type.text)

/-- The members of a record type, seen through aliases and defined names. -/
def recordBody? (type : HostType) : Option (List Field) :=
  match table.underlying type with
  | .record body => some body
  | _ => none

/-! ## Aliases at every depth -/

/-- The size of the target of an alias, and nothing for a defined type. -/
def aliasSize (declaration : Declaration) : Nat :=
  match declaration.definition with
  | .alias target => target.size
  | .defined _ => 0

/-- A depth that the expansion of a type cannot pass without meeting an alias twice. -/
def expansionDepth (type : HostType) : Nat :=
  type.size + table.entries.foldr (fun entry sizes => aliasSize entry.2 + sizes) 0 + 1

/-- A type with the aliases replaced at every depth, if it is no deeper than the given number. -/
def expandWithin : Nat → HostType → Option HostType
  | 0, _ => none
  | depth + 1, type =>
    match table.resolve type with
    | .pointer target => (expandWithin depth target).map .pointer
    | .slice element => (expandWithin depth element).map .slice
    | .map key value =>
      match expandWithin depth key with
      | none => none
      | some keyType => (expandWithin depth value).map (.map keyType)
    | .record body =>
      (body.mapM fun member =>
        (expandWithin depth member.type).map fun type => { member with type := type }).map .record
    | plain => some plain

/-- A type with the aliases replaced at every depth; nothing if some alias mentions itself. -/
def expand? (type : HostType) : Option HostType :=
  table.expandWithin (table.expansionDepth type) type

/-! ## Records behind embedded members -/

/-- A declared record and its members. -/
structure DeclaredRecord where
  ref : QualifiedName
  body : List Field
  deriving Repr

/-- The record named by a type, looking through pointers and aliases up to the given depth. -/
def embeddedRecordWithin : Nat → HostType → Option DeclaredRecord
  | 0, _ => none
  | depth + 1, type =>
    match table.resolve type with
    | .pointer target => embeddedRecordWithin depth target
    | .named ref => (table.recordBody? (.named ref)).map fun body => ⟨ref, body⟩
    | _ => none

/-- The record that an embedded member of a type promotes. -/
def embeddedRecord? (type : HostType) : Option DeclaredRecord :=
  table.embeddedRecordWithin (table.expansionDepth type) type

end Declarations
end RecordConversion
