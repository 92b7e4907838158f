import RecordConversion.Document.Basic

/-!
# Documents in brackets and braces

The text of a document with an item or entry on each line, indented by two blanks for each level.
Texts stand in double quotes, in which only quotes, backslashes and controls are escaped; bare
scalars stand as they are spelled.  A pair of documents is a list of two.
-/

namespace RecordConversion
namespace Json

/-- How one character is written between quotes. -/
def escapedChar (c : Char) : List Char :=
  if c = '"' then ['\\', '"']
  else if c = '\\' then ['\\', '\\']
  else if c = '\n' then ['\\', 'n']
  else if c = '\r' then ['\\', 'r']
  else if c = '\t' then ['\\', 't']
  else if c.toNat = 8 then ['\\', 'b']
  else if c.toNat = 12 then ['\\', 'f']
  else if c.toNat < 32 then ['\\', 'u'] ++ (Nat.toDigits 16 c.toNat).leftpad 4 '0'
  else [c]

/-- A text in double quotes. -/
def string (s : String) : String :=
  String.ofList ('"' :: s.toList.flatMap escapedChar ++ ['"'])

/-- Lines with a comma at the end of the last. -/
def withComma : List String → List String
  | [] => []
  | [line] => [line ++ ","]
  | line :: rest => line :: withComma rest

/-- Lines one level further in. -/
def indented (ls : List String) : List String :=
  ls.map fun line => "  " ++ line

/-- Lines with a text before the first. -/
def led (lead : String) : List String → List String
  | [] => [lead]
  | line :: rest => (lead ++ line) :: rest

mutual

/-- The lines of a document. -/
def lines : Document → List String
  | .bare spelling => [spelling]
  | .text content => [string content]
  | .list [] => ["[]"]
  | .list items => "[" :: indented (itemLines items) ++ ["]"]
  | .object [] => ["\x7b\x7d"]
  | .object entries => "\x7b" :: indented (entryLines entries) ++ ["\x7d"]
  | .pairs [] => ["[]"]
  | .pairs entries => "[" :: indented (pairLines entries) ++ ["]"]

/-- The lines of the items of a list, all but the last with commas. -/
def itemLines : List Document → List String
  | [] => []
  | [item] => lines item
  | item :: rest => withComma (lines item) ++ itemLines rest

/-- The lines of the entries of an object, all but the last with commas. -/
def entryLines : List (String × Document) → List String
  | [] => []
  | [(key, value)] => led (string key ++ ": ") (lines value)
  | (key, value) :: rest => withComma (led (string key ++ ": ") (lines value)) ++ entryLines rest

/-- The lines of pairs of documents, all but the last with commas. -/
def pairLines : List (Document × Document) → List String
  | [] => []
  | [(key, value)] => "[" :: indented (withComma (lines key) ++ lines value) ++ ["]"]
  | (key, value) :: rest =>
    "[" :: indented (withComma (lines key) ++ lines value) ++ "]," :: pairLines rest

end

end Json

namespace Document

/-- The text of a document, without a line break at its end. -/
def toJson (document : Document) : String :=
  "\n".intercalate (Json.lines document)

end Document
end RecordConversion
