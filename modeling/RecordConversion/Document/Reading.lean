import RecordConversion.Document.Basic
import RecordConversion.Keyed

/-!
# Reading values from documents

What a part of a document means depends on what is wanted there.  In a loose document a bare scalar
may stand for a text, as written; a strict document keeps the two apart.  A bare scalar that spells
nothing stands for an absent value, and a wholly empty one also for an empty list or object.

A reading fails with `none`; nothing is guessed.
-/

namespace RecordConversion
namespace Document

/-- Whether bare scalars may stand for texts. -/
inductive Style where
  | loose
  | strict
  deriving DecidableEq, Repr

/-- The bare spellings of an absent value. -/
def isAbsent (spelling : String) : Bool :=
  ["", "~", "null", "Null", "NULL"].contains spelling

/-- A text; in a loose document any scalar is one, as it is spelled. -/
def readText (style : Style) : Document → Option String
  | .text content => some content
  | .bare spelling => if style = .loose then some spelling else none
  | _ => none

/-- A truth value. -/
def readFlag : Document → Option Bool
  | .bare spelling =>
    if ["true", "True", "TRUE"].contains spelling then some true
    else if ["false", "False", "FALSE"].contains spelling then some false
    else none
  | _ => none

/-- The items of a list. -/
def readItems : Document → Option (List Document)
  | .list items => some items
  | .bare spelling => if spelling = "" then some [] else none
  | _ => none

/-- The entries of an object. -/
def readEntries : Document → Option (List (String × Document))
  | .object entries => some entries
  | .bare spelling => if spelling = "" then some [] else none
  | _ => none

/-- A value that may be absent. -/
def readOptional {α : Type}
    (read : Document → Option α) : Document → Option (Option α)
  | .bare spelling =>
    if isAbsent spelling then some none else (read (.bare spelling)).map some
  | document => (read document).map some

/-- A list of values. -/
def readList {α : Type}
    (read : Document → Option α) (document : Document) : Option (List α) :=
  document.readItems.bind fun items => items.mapM read

/-- A table of values; the last value under a name counts. -/
def readKeyed {α : Type}
    (read : Document → Option α) (document : Document) : Option (Keyed α) :=
  document.readEntries.bind fun entries =>
    (entries.mapM fun entry => (read entry.2).map fun value => (entry.1, value)).map Keyed.ofList

/-- The documents under a name, in order. -/
def under
    (key : String) (entries : List (String × Document)) : List Document :=
  (entries.filter fun entry => entry.1 == key).map Prod.snd

/-- The value under a name that must be given once. -/
def readRequired {α : Type}
    (key : String) (read : Document → Option α) (entries : List (String × Document)) : Option α :=
  match under key entries with
  | [document] => read document
  | _ => none

/-- The value under a name that may be given once, and else a fixed one. -/
def readDefault {α : Type}
    (key : String) (default : α) (read : Document → Option α)
    (entries : List (String × Document)) : Option α :=
  match under key entries with
  | [] => some default
  | [document] => read document
  | _ => none

end Document
end RecordConversion
