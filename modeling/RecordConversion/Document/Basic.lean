/-!
# Documents

The tree that configuration files and reports have in common.  A bare scalar is one whose meaning
depends on where it stands (`true` is a flag, or four letters); a text is a string and nothing else.
Entries of an object keep their order, and a key may be repeated.  A key that is itself a list or an
object names nothing: entries of which some have such a key are pairs of documents.
-/

namespace RecordConversion

/-- A tree of scalars, lists and keyed entries. -/
inductive Document where
  | bare (spelling : String)
  | text (content : String)
  | list (items : List Document)
  | object (entries : List (String × Document))
  | pairs (entries : List (Document × Document))
  deriving Repr, Inhabited

namespace Document

/-- The text of a scalar, however it is meant. -/
def scalar? : Document → Option String
  | .bare spelling => some spelling
  | .text content => some content
  | _ => none

/-- The document of some entries: an object if all their keys are scalars. -/
def ofEntries (entries : List (Document × Document)) : Document :=
  match entries.mapM fun entry => entry.1.scalar?.map fun name => (name, entry.2) with
  | some named => .object named
  | none => .pairs entries

/-- The bare spelling of a truth value. -/
def flag (value : Bool) : Document :=
  .bare (if value then "true" else "false")

/-- A list of texts. -/
def texts (contents : List String) : Document :=
  .list (contents.map .text)

/-- An entry that is left out when there is nothing to say. -/
def entry?
    (key : String) (value : Option Document) : List (String × Document) :=
  match value with
  | some document => [(key, document)]
  | none => []

/-- An entry that is written only under a condition. -/
def entryIf
    (condition : Bool) (key : String) (value : Document) : List (String × Document) :=
  if condition then [(key, value)] else []

end Document
end RecordConversion
