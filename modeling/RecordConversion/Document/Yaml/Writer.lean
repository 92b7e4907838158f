import RecordConversion.Document.Basic
import RecordConversion.Document.Json
import RecordConversion.Document.Yaml.Spelling
import RecordConversion.Text.Segment

/-!
# Documents as block-structured text

The text of a document in blocks, indented by two blanks for each level; a list stands at the
indentation of its key, and empty lists and objects in brackets.

A text with line feeds is written line by line.  Any other stays plain unless it would be read as
something else, begins like a piece of structure, or has a colon or hash where that has a meaning;
then it is put in single quotes, or in double quotes if it has characters that do not show.  A line
or paragraph separator in a text that is not in double quotes ends a line of what is written.
-/

namespace RecordConversion
namespace Yaml

/-! ## The form of a scalar -/

/-- A character that is written as it is. -/
def isShown (c : Char) : Bool :=
  let n := c.toNat
  n == 10 || (0x20 ≤ n && n ≤ 0x7e) || (0xa0 ≤ n && n ≤ 0xfffd && n != 0xfeff) || 0x10000 ≤ n

/-- A line break in a scalar that is written. -/
def breaksLine (c : Char) : Bool :=
  c == '\n' || c == '\r' || [0x85, 0x2028, 0x2029].contains c.toNat

/-- A blank, a line break or the end comes next. -/
def isFollowedByBlank : List Char → Bool
  | [] => true
  | c :: _ => c == ' ' || c == '\t' || breaksLine c

/-- The first character of a scalar has a meaning of its own there. -/
def beginsStructure : List Char → Bool
  | [] => false
  | c :: rest =>
    "#,[]\x7b\x7d&*!|>'\"%@".toList.contains c || c.toNat == 0x60 ||
      ("?:-".toList.contains c && isFollowedByBlank rest)

/-- A colon before a blank or a hash after one, of which the first character may be the second. -/
def hasInnerStructure : List Char → Bool
  | [] => false
  | ':' :: rest => isFollowedByBlank rest || hasInnerStructure rest
  | c :: rest =>
    ((c == ' ' || c == '\t' || breaksLine c) && rest.head? == some '#') || hasInnerStructure rest

/-- The text begins like a mark between documents. -/
def beginsMark (cs : List Char) : Bool :=
  ['-', '-', '-'].isPrefixOf cs || ['.', '.', '.'].isPrefixOf cs

/-- Two characters with the given properties stand next to each other. -/
def hasPair (p q : Char → Bool) (cs : List Char) : Bool :=
  (cs.zip (cs.drop 1)).any fun (a, b) => p a && q b

/-- A character has to be escaped, or a line ends in a blank. -/
def needsEscapes (cs : List Char) : Bool :=
  cs.any (fun c => !isShown c) || hasPair (· == ' ') breaksLine cs

/-- The text may be written without quotes. -/
def mayBePlain (cs : List Char) : Bool :=
  !(cs.isEmpty || cs.head? == some ' ' || cs.getLast? == some ' ' || cs.any breaksLine ||
    needsEscapes cs || beginsStructure cs || beginsMark cs || hasInnerStructure cs)

/-- The text may be written in single quotes. -/
def mayBeSingleQuoted (cs : List Char) : Bool :=
  !(needsEscapes cs || hasPair breaksLine (· == ' ') cs)

/-- The text may be written line by line. -/
def mayBeLines (cs : List Char) : Bool :=
  !(needsEscapes cs || cs.getLast? == some ' ')

/-! ## Scalars -/

/-- How one character is written between double quotes. -/
def escapedChar (c : Char) : List Char :=
  let n := c.toNat
  if c = '"' then ['\\', '"']
  else if c = '\\' then ['\\', '\\']
  else if isShown c && !breaksLine c then [c]
  else
    match n with
    | 0 => ['\\', '0']
    | 7 => ['\\', 'a']
    | 8 => ['\\', 'b']
    | 9 => ['\\', 't']
    | 10 => ['\\', 'n']
    | 11 => ['\\', 'v']
    | 12 => ['\\', 'f']
    | 13 => ['\\', 'r']
    | 27 => ['\\', 'e']
    | 0x85 => ['\\', 'N']
    | 0x2028 => ['\\', 'L']
    | 0x2029 => ['\\', 'P']
    | _ =>
      let width := if n ≤ 0xff then 2 else if n ≤ 0xffff then 4 else 8
      let letter := if n ≤ 0xff then 'x' else if n ≤ 0xffff then 'u' else 'U'
      '\\' :: letter :: ((Nat.toDigits 16 n).leftpad width '0').map Char.toUpper

/-- A line of a text that is written, and the line break that ends it. -/
structure Line where
  text : String
  ending : Char
  deriving DecidableEq, Repr

namespace Line

/-- A line of the text that is written, not of a scalar in it. -/
def ofText (text : String) : Line := ⟨text, '\n'⟩

/-- The line after a text that stands before it. -/
def after (line : Line) (lead : String) : Line := ⟨lead ++ line.text, line.ending⟩

end Line

/-- A text in double quotes. -/
def doubleQuoted (cs : List Char) : String :=
  String.ofList ('"' :: cs.flatMap escapedChar ++ ['"'])

/-- A text in single quotes, in which a quote is written twice. -/
def singleQuoted (cs : List Char) : List Char :=
  '\'' :: cs.flatMap (fun c => if c = '\'' then ['\'', '\''] else [c]) ++ ['\'']

/-- The mark of a text that is written line by line: whether it begins with a blank, and whether no
line break or more than one ends it. -/
def linesMark (cs : List Char) : String :=
  let lead := if cs.head?.any fun c => c == ' ' || breaksLine c then "2" else ""
  let chomping :=
    match cs.reverse with
    | [] => "-"
    | c :: before =>
      if !breaksLine c then "-" else if before.head?.all breaksLine then "+" else ""
  "|" ++ lead ++ chomping

/-- The lines of a text; the last one needs no line break. -/
def splitLines (cs : List Char) : List Line :=
  go [] cs
where
  /-- The lines of a text whose first line begins with characters that are given backwards. -/
  go (line : List Char) : List Char → List Line
    | [] => if line.isEmpty then [] else [.ofText (String.ofList line.reverse)]
    | c :: rest =>
      if breaksLine c then ⟨String.ofList line.reverse, c⟩ :: go [] rest else go (c :: line) rest

/-- The lines of a text, of which those after the first are to be indented. -/
def textLines (s : String) : List Line :=
  let cs := s.toList
  if cs.contains '\n' then
    if mayBeLines cs then .ofText (linesMark cs) :: splitLines cs
    else [.ofText (doubleQuoted cs)]
  else if !isTaken s && mayBePlain cs then [.ofText s]
  else if mayBeSingleQuoted cs then splitLines (singleQuoted cs)
  else [.ofText (doubleQuoted cs)]

/-! ## Blocks -/

/-- Lines one level further in; an empty line stays empty. -/
def indented (ls : List Line) : List Line :=
  ls.map fun line => if line.text.isEmpty then line else line.after "  "

/-- Lines with a mark before the first, the others one level further in. -/
def marked (mark : String) : List Line → List Line
  | [] => [.ofText mark]
  | line :: rest => line.after mark :: indented rest

/-- A key that is too long or has several lines is given on its own. -/
def isSimpleKey (key : String) : Bool :=
  key.utf8ByteSize ≤ 128 && !key.toList.any breaksLine

mutual

/-- The lines of a document. -/
def lines : Document → List Line
  | .bare spelling => [.ofText spelling]
  | .text content => textLines content
  | .list [] => [.ofText "[]"]
  | .list items => itemLines items
  | .object [] => [.ofText "\x7b\x7d"]
  | .object entries => entryLines entries
  | .pairs [] => [.ofText "\x7b\x7d"]
  | .pairs entries => pairLines entries

/-- The lines of the items of a list. -/
def itemLines : List Document → List Line
  | [] => []
  | item :: rest => marked "- " (lines item) ++ itemLines rest

/-- The lines of the entries of an object. -/
def entryLines : List (String × Document) → List Line
  | [] => []
  | (key, value) :: rest =>
    let body := lines value
    let entry :=
      if isSimpleKey key then
        let lead := String.join ((textLines key).map Line.text) ++ ":"
        match value with
        | .list (_ :: _) => .ofText lead :: body
        | .object (_ :: _) | .pairs (_ :: _) => .ofText lead :: indented body
        | _ => marked (lead ++ " ") body
      else marked "? " (textLines key) ++ marked ": " body
    entry ++ entryLines rest

/-- The lines of pairs of documents, whose keys are given on their own. -/
def pairLines : List (Document × Document) → List Line
  | [] => []
  | (key, value) :: rest => marked "? " (lines key) ++ marked ": " (lines value) ++ pairLines rest

end

end Yaml

namespace Document

/-- The block-structured text of a document. -/
def toYaml (document : Document) : String :=
  String.join ((Yaml.lines document).map fun line => line.text.push line.ending)

end Document
end RecordConversion
