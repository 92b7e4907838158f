import RecordConversion.Provider
import RecordConversion.Record.Basic
import RecordConversion.Text.LetterCase

/-!
# Fields through embedded members

The fields that a record offers are its own visible members and, through each embedded member, those
of the embedded record one level further in.  A record that is already on the way is not entered
again.

Candidates are told apart by their lower-cased names.  The shallowest one is offered; two at the
same depth on different paths cancel each other.  What is left keeps the order of the candidates.

`Provider.candidates` lists the candidates depth first, `Selection.add` decides between them.
-/

namespace RecordConversion

/-- A field that may be offered, and the number of embedded members on the way to it. -/
structure Candidate where
  field : RecordField
  depth : Nat
  deriving DecidableEq, Repr

namespace Candidate

/-- What candidates are told apart by. -/
def key (candidate : Candidate) : String :=
  Text.lowercase candidate.field.name

end Candidate

/-- The best candidate so far under a name, and whether another one cancels it. -/
structure Choice where
  candidate : Candidate
  ambiguous : Bool
  deriving DecidableEq, Repr

/-- The choices so far, in the order of their candidates. -/
abbrev Selection := List Choice

namespace Selection

/-- The selection with one more candidate weighed: a deeper one changes nothing, one at the same
depth on another path cancels, a shallower one takes over and goes to the end. -/
def add
    (selection : Selection) (candidate : Candidate) : Selection :=
  match selection.find? fun choice => choice.candidate.key == candidate.key with
  | none => selection ++ [⟨candidate, false⟩]
  | some choice =>
    if choice.candidate.depth < candidate.depth then selection
    else if candidate.depth = choice.candidate.depth then
      if choice.candidate.field.accessPath = candidate.field.accessPath then selection
      else
        selection.map fun other =>
          if other.candidate.key == candidate.key then { other with ambiguous := true } else other
    else
      (selection.filter fun other => other.candidate.key != candidate.key) ++ [⟨candidate, false⟩]

/-- The fields that are offered. -/
def fields (selection : Selection) : List RecordField :=
  (selection.filter fun choice => !choice.ambiguous).map (·.candidate.field)

end Selection

namespace Provider

variable (provider : Provider)

/-- A visible member as a field, reached through embedded members. -/
def fieldAt
    (inside : String) (trail : List String) (via : String) (member : Field) : RecordField where
  name := member.name
  accessPath := ".".intercalate (trail ++ [member.name])
  typeText := provider.spell inside member.type
  shape := provider.declarations.shapeOf member.type
  type := member.type
  visible := true
  embeddedFrom := via

/-- The candidates of some members, down to a number of levels.  `entered` are the records on the
way, `trail` the names of the embedded members passed, `via` the record declaring the members. -/
def candidatesWithin
    (inside : String) :
    Nat → List QualifiedName → List String → String → List Field → List Candidate
  | 0, _, _, _, _ => []
  | levels + 1, entered, trail, via, members =>
    members.flatMap fun member =>
      if member.embedded then
        match provider.declarations.embeddedRecord? member.type with
        | none => []
        | some record =>
          if entered.contains record.ref then []
          else
            candidatesWithin inside levels (record.ref :: entered) (trail ++ [member.name])
              record.ref.name record.body
      else if member.visible then
        [⟨provider.fieldAt inside trail via member, trail.length⟩]
      else []

/-- The candidates for the fields of a record; each level enters one more declared name. -/
def candidates
    (ref : QualifiedName) (members : List Field) : List Candidate :=
  provider.candidatesWithin ref.path (provider.declarations.entries.length + 1) [ref] [] "" members

/-- The fields that a record with the given members offers. -/
def fieldsOf
    (ref : QualifiedName) (members : List Field) : List RecordField :=
  let selection : Selection := (provider.candidates ref members).foldl Selection.add []
  selection.fields

end Provider
end RecordConversion
