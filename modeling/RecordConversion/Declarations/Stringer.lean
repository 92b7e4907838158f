import RecordConversion.Declarations.Basic

/-!
# Which types have a text of their own

A type has a text when it, or its pointer, has a method `String() string`: declared on the named
type, or promoted from an embedded member.  The shallowest depth with a method or field of that name
decides, and two candidates at that depth cancel each other.

The search goes down tier by tier: `Tier.visit` collects what one type of a tier offers, and each
type is looked at once.
-/

namespace RecordConversion

namespace Method

/-- The method takes nothing and returns a string. -/
def isStringer (method : Method) : Bool :=
  method.name == "String" && method.params.isEmpty &&
    method.returns == [.primitive .string]

end Method

/-- What the types at one depth of embedding offer under the name `String`. -/
structure Tier where
  /-- Types already looked at, here or further out. -/
  seen : List QualifiedName
  fitting : Nat
  unfitting : Nat
  /-- Fields of that name, which stand one step further in than their types. -/
  fields : Nat
  next : List HostType
  deriving Repr

namespace Declarations

variable (table : Declarations)

/-- A type without its aliases and at most one pointer. -/
def embeddedBase (type : HostType) : HostType :=
  match table.resolve type with
  | .pointer target => table.resolve target
  | plain => plain

/-- What one type adds to its tier. -/
def visitTier
    (tier : Tier) (type : HostType) : Tier :=
  match type with
  | .named ref =>
    if tier.seen.contains ref then tier
    else
      let marked := { tier with seen := ref :: tier.seen }
      match table.lookup ref with
      | none => marked
      | some declaration =>
        match declaration.methods.find? (·.name == "String") with
        | some method =>
          if method.isStringer then { marked with fitting := marked.fitting + 1 }
          else { marked with unfitting := marked.unfitting + 1 }
        | none =>
          match table.recordBody? type with
          | none => marked
          | some body =>
            let bases := (body.filter (·.embedded)).map fun member => table.embeddedBase member.type
            let fields := body.filter fun member => !member.embedded && member.name == "String"
            { marked with next := marked.next ++ bases, fields := marked.fields + fields.length }
  | _ => tier

/-- The search from one tier on, with the fields that already stand at its depth. -/
def stringerFrom : Nat → List QualifiedName → List HostType → Nat → Bool
  | 0, _, _, _ => false
  | depth + 1, seen, level, colliding =>
    let tier := level.foldl table.visitTier ⟨seen, 0, 0, 0, []⟩
    if tier.fitting + tier.unfitting + colliding > 0 then
      tier.fitting == 1 && tier.unfitting == 0 && colliding == 0
    else if tier.next.isEmpty && tier.fields == 0 then false
    else stringerFrom depth tier.seen tier.next tier.fields

/-- The type, or its pointer, has a method that gives its text. -/
def supportsStringer (type : HostType) : Bool :=
  match table.embeddedBase type with
  | .named ref => table.stringerFrom expansionLimit [] [.named ref] 0
  | _ => false

end Declarations
end RecordConversion
