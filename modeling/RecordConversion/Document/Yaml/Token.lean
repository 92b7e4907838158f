import RecordConversion.Document.Yaml.Scalar

/-!
# Tokens of block-structured text

A text is cut into tokens that show its structure: the beginnings and ends of blocks, which come
from the indentation, the brackets, the marks of entries, keys and values, and the scalars.

Whether something is a key shows only at the colon after it.  A scalar or bracket that may be a key
is remembered with its position among the tokens, and the mark of the key is put in front of it
later.  A key must be followed by its colon on the same line and within 1024 bytes.

Anchors, references to them and tags are not read: a text with one has no tokens.  A version is read
where a line begins with its directive.
-/

namespace RecordConversion
namespace Yaml

/-- A part of the structure of a text. -/
inductive Token where
  /-- A directive that names a version of the format. -/
  | version
  | documentStart
  | documentEnd
  | blockListStart
  | blockObjectStart
  | blockEnd
  | flowListStart
  | flowListEnd
  | flowObjectStart
  | flowObjectEnd
  | blockEntry
  | flowEntry
  | key
  | value
  | scalar (plain : Bool) (content : String)
  deriving DecidableEq, Repr

/-- Something that is a key if a colon follows. -/
structure PossibleKey where
  /-- The number of tokens before it. -/
  position : Nat
  /-- Its place in a block leaves no other meaning. -/
  required : Bool
  mark : Mark
  deriving Repr

/-- A text on the way to its tokens. -/
structure Scan where
  rest : List Char
  mark : Mark
  /-- The columns of the open blocks, innermost first. -/
  columns : List Nat
  /-- A key may begin here. -/
  keyAllowed : Bool
  /-- What may be a key at each level of brackets, innermost first. -/
  keys : List (Option PossibleKey)
  /-- The tokens so far, latest first. -/
  tokens : List Token
  /-- The number of tokens so far. -/
  count : Nat
  deriving Repr

namespace Scan

/-- The text before its first token. -/
def start (text : List Char) : Scan :=
  ⟨text, ⟨0, 0, 0⟩, [], true, [none], [], 0⟩

/-- The text stands inside brackets. -/
def inFlow (scan : Scan) : Bool :=
  match scan.keys with
  | _ :: _ :: _ => true
  | _ => false

/-- The first column that is inside the innermost block. -/
def margin (scan : Scan) : Nat :=
  match scan.columns with
  | [] => 0
  | column :: _ => column + 1

/-- A token is added. -/
def emit (scan : Scan) (token : Token) : Scan :=
  { scan with tokens := token :: scan.tokens, count := scan.count + 1 }

/-- So many characters of a line are passed. -/
def skip (scan : Scan) (count : Nat) : Scan :=
  { scan with rest := scan.rest.drop count, mark := scan.mark.forward (scan.rest.take count) }

/-- A token is put in front of those from a position on. -/
def emitAt
    (scan : Scan) (position : Nat) (token : Token) : Scan :=
  let later := scan.count - position
  { scan with
    tokens := scan.tokens.take later ++ token :: scan.tokens.drop later
    count := scan.count + 1 }

/-! ## Possible keys -/

/-- What may be a key at this level is forgotten, unless it must be one. -/
def dropKey (scan : Scan) : Option Scan :=
  match scan.keys with
  | some key :: outer => if key.required then none else some { scan with keys := none :: outer }
  | _ => some scan

/-- What comes next may be a key. -/
def saveKey (scan : Scan) : Option Scan :=
  if scan.keyAllowed then
    scan.dropKey.map fun scan =>
      let required := !scan.inFlow && scan.margin == scan.mark.column + 1
      { scan with keys := some ⟨scan.count, required, scan.mark⟩ :: scan.keys.drop 1 }
  else some scan

/-- A possible key has been left too far behind. -/
def isStale (scan : Scan) (key : PossibleKey) : Bool :=
  key.mark.line < scan.mark.line || key.mark.offset + 1024 < scan.mark.offset

/-- What may be a key at this level is forgotten if it has been left behind, unless it must be one.
At the levels around this one that is seen when the text is back there. -/
def dropStaleKey (scan : Scan) : Option Scan :=
  match scan.keys with
  | some key :: _ => if scan.isStale key then scan.dropKey else some scan
  | _ => some scan

/-! ## Blocks -/

/-- A block begins at a column to the right of the innermost one. -/
def openBlock
    (scan : Scan) (column : Nat) (position : Nat) (token : Token) : Scan :=
  if !scan.inFlow && scan.margin ≤ column then
    { scan with columns := column :: scan.columns }.emitAt position token
  else scan

/-- Blocks that begin to the right of a column end; without a column, all of them. -/
def closeBlocks (scan : Scan) (column? : Option Nat) : Scan :=
  if scan.inFlow then scan
  else
    let ends := fun column => column?.all fun limit => limit < column
    let closed := scan.columns.takeWhile ends
    { scan with
      columns := scan.columns.dropWhile ends
      tokens := closed.map (fun _ => Token.blockEnd) ++ scan.tokens
      count := scan.count + closed.length }

/-! ## Between tokens -/

/-- Blanks, line breaks and remarks are passed.  A tab is a blank only where no key may begin, and a
byte order mark only at the beginning of a line. -/
def passFiller (inFlow : Bool) :
    List Char → Mark → Bool → Bool → List Char × Mark × Bool
  | [], mark, keyAllowed, _ => ([], mark, keyAllowed)
  | c :: rest, mark, keyAllowed, inRemark =>
    if isBreak c then passFiller inFlow rest mark.newline (keyAllowed || !inFlow) false
    else if inRemark || c == ' ' || (c == '\t' && (inFlow || !keyAllowed)) ||
        (c.toNat == 0xfeff && mark.column == 0) then
      passFiller inFlow rest (mark.forward [c]) keyAllowed inRemark
    else if c == '#' then passFiller inFlow rest (mark.forward [c]) keyAllowed true
    else (c :: rest, mark, keyAllowed)

/-- The text from its next token on. -/
def toToken (scan : Scan) : Scan :=
  let (rest, mark, keyAllowed) :=
    passFiller scan.inFlow scan.rest scan.mark scan.keyAllowed false
  { scan with rest := rest, mark := mark, keyAllowed := keyAllowed }

/-! ## One token -/

/-- A mark between documents ends all blocks. -/
def documentToken (scan : Scan) (token : Token) : Option Scan :=
  (scan.closeBlocks none).dropKey.map fun scan =>
    { scan with keyAllowed := false }.skip 3 |>.emit token

/-- The length of a directive for a version of the format, of which there are two. -/
def versionLength? (cs : List Char) : Option Nat :=
  let name := ['%', 'Y', 'A', 'M', 'L']
  let blanks := (cs.drop name.length).takeWhile isSpace
  let major := (cs.drop (name.length + blanks.length)).takeWhile Char.isDigit
  let dot := cs.drop (name.length + blanks.length + major.length)
  let minor := (dot.drop 1).takeWhile Char.isDigit
  let number := fun digits : List Char => digits.foldl (fun n d => 10 * n + (d.toNat - 48)) 0
  let isNumber := fun digits : List Char => 1 ≤ digits.length && digits.length ≤ 9
  let beforeFiller := name.length + blanks.length + major.length + 1 + minor.length
  let length := beforeFiller + (lineFiller (cs.drop beforeFiller)).length
  if name.isPrefixOf cs && !blanks.isEmpty && isNumber major && dot.head? = some '.' &&
      isNumber minor && number major == 1 && (number minor == 1 || number minor == 2) &&
      (cs.drop length).head?.all isBreak then
    some length
  else none

/-- A line with a directive, which ends all blocks. -/
def directiveToken (scan : Scan) : Option Scan :=
  (versionLength? scan.rest).bind fun length =>
    (scan.closeBlocks none).dropKey.map fun scan =>
      let passed := scan.skip length
      { passed with
        keyAllowed := false
        rest := passed.rest.drop 1
        mark := if passed.rest.isEmpty then passed.mark else passed.mark.newline }.emit .version

/-- An opening bracket, which may begin a key. -/
def openToken (scan : Scan) (token : Token) : Option Scan :=
  scan.saveKey.map fun scan =>
    { scan with keys := none :: scan.keys, keyAllowed := true }.skip 1 |>.emit token

/-- A closing bracket. -/
def closeToken (scan : Scan) (token : Token) : Option Scan :=
  scan.dropKey.map fun scan =>
    let keys := if scan.inFlow then scan.keys.drop 1 else scan.keys
    { scan with keys := keys, keyAllowed := false }.skip 1 |>.emit token

/-- A comma between brackets. -/
def commaToken (scan : Scan) : Option Scan :=
  scan.dropKey.map fun scan => { scan with keyAllowed := true }.skip 1 |>.emit .flowEntry

/-- The hyphen of a list entry. -/
def entryToken (scan : Scan) : Option Scan :=
  if !scan.inFlow && !scan.keyAllowed then none
  else
    (scan.openBlock scan.mark.column scan.count .blockListStart).dropKey.map fun scan =>
      { scan with keyAllowed := true }.skip 1 |>.emit .blockEntry

/-- The question mark of a key that is given on its own. -/
def keyToken (scan : Scan) : Option Scan :=
  if !scan.inFlow && !scan.keyAllowed then none
  else
    (scan.openBlock scan.mark.column scan.count .blockObjectStart).dropKey.map fun scan =>
      { scan with keyAllowed := !scan.inFlow }.skip 1 |>.emit .key

/-- The colon of a value, which makes a key of what stands before it. -/
def valueToken (scan : Scan) : Option Scan :=
  match scan.keys with
  | some key :: outer =>
    let marked := { scan with keys := none :: outer }.emitAt key.position .key
    let opened := marked.openBlock key.mark.column key.position .blockObjectStart
    some ({ opened with keyAllowed := false }.skip 1 |>.emit .value)
  | _ =>
    if !scan.inFlow && !scan.keyAllowed then none
    else
      let opened := scan.openBlock scan.mark.column scan.count .blockObjectStart
      some ({ opened with keyAllowed := !scan.inFlow }.skip 1 |>.emit .value)

/-- A scalar that has been read. -/
def scalarToken
    (scan : Scan) (plain keyAllowed : Bool) (scalar : ScalarEnd) : Scan :=
  { scan with rest := scalar.rest, mark := scalar.mark, keyAllowed := keyAllowed }.emit
    (.scalar plain (String.ofList scalar.content))

/-- A plain or quoted scalar, which may be a key. -/
def keyScalarToken
    (scan : Scan) (plain : Bool) (read : Scan → Option ScalarEnd) : Option Scan :=
  scan.saveKey.bind fun scan =>
    (read scan).map fun scalar => scan.scalarToken plain scalar.broken scalar

/-- A block scalar. -/
def blockScalarToken (scan : Scan) (folded : Bool) : Option Scan :=
  scan.dropKey.bind fun scan =>
    let inside := scan.skip 1
    (readBlock folded inside.margin inside.rest inside.mark).map
      (inside.scalarToken false true)

/-- A character that begins no plain scalar. -/
def isIndicator (c : Char) : Bool :=
  "-?:,[]\x7b\x7d#&*!|>'\"%@".toList.contains c || c.toNat == 0x60

/-- The text goes on with a plain scalar. -/
def beginsPlain (inFlow : Bool) : List Char → Bool
  | [] => false
  | c :: rest =>
    !(isSpace c || isBreak c || isIndicator c) ||
      (c == '-' && !(rest.head?.any isSpace)) ||
      (!inFlow && (c == '?' || c == ':') && !endsWord rest)

/-- The token at which a text stands. -/
def token (scan : Scan) : Option Scan :=
  match scan.rest with
  | [] => none
  | c :: rest =>
    if scan.mark.column == 0 && isDocumentMark (c :: rest) then
      scan.documentToken (if c = '-' then .documentStart else .documentEnd)
    else if scan.mark.column == 0 && c == '%' then scan.directiveToken
    else if c = '[' then scan.openToken .flowListStart
    else if c = '\x7b' then scan.openToken .flowObjectStart
    else if c = ']' then scan.closeToken .flowListEnd
    else if c = '\x7d' then scan.closeToken .flowObjectEnd
    else if c = ',' then scan.commaToken
    else if c = '-' && endsWord rest then scan.entryToken
    else if c = '?' && (scan.inFlow || endsWord rest) then scan.keyToken
    else if c = ':' && (scan.inFlow || endsWord rest) then scan.valueToken
    else if c = '|' && !scan.inFlow then scan.blockScalarToken false
    else if c = '>' && !scan.inFlow then scan.blockScalarToken true
    else if c = '\'' then
      scan.keyScalarToken false fun scan =>
        readSingle rest (scan.mark.forward [c]) [] .none
    else if c = '"' then
      scan.keyScalarToken false fun scan =>
        readDouble rest (scan.mark.forward [c]) [] .none
    else if beginsPlain scan.inFlow (c :: rest) then
      scan.keyScalarToken true fun scan =>
        readPlain scan.inFlow scan.margin scan.rest scan.mark [] .none false
    else none

/-- The text with its next token read, or `none` inside if it has ended. -/
def next (scan : Scan) : Option (Scan × Bool) :=
  scan.toToken.dropStaleKey.bind fun scan =>
    match scan.rest with
    | [] => (scan.closeBlocks none).dropKey.map fun scan => (scan, true)
    | _ => (scan.closeBlocks (some scan.mark.column)).token.map fun scan => (scan, false)

/-- All tokens of a text that has at most so many. -/
def run : Nat → Scan → Option (List Token)
  | 0, _ => none
  | count + 1, scan =>
    scan.next.bind fun (scan, ended) =>
      if ended then some scan.tokens.reverse else run count scan

end Scan

/-- The tokens of a text; each takes at least one character. -/
def tokens? (text : String) : Option (List Token) :=
  let chars := text.toList
  if chars.all isReadable then
    Scan.run (chars.length + 1) (.start (evenBreaks chars))
  else none

end Yaml
end RecordConversion
