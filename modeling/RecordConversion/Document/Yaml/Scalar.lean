import RecordConversion.Document.Yaml.Spelling

/-!
# Scalars of block-structured text

Plain, quoted and block scalars as they stand in a text of indented lines.  Words of a plain or
quoted scalar are joined over line breaks: one break counts as a blank, further ones are kept.

A text is a list of characters whose line ends have been made alike (`evenBreaks`); each reader gets
the position of its first character and gives back the text and the position after the scalar.
Words are collected backwards, latest character first.
-/

namespace RecordConversion
namespace Yaml

/-- A position in a text. -/
structure Mark where
  line : Nat
  column : Nat
  /-- The number of bytes before it on its line. -/
  offset : Nat
  deriving DecidableEq, Repr

namespace Mark

/-- The position after some characters of a line. -/
def forward (mark : Mark) (passed : List Char) : Mark :=
  ⟨mark.line, mark.column + passed.length,
    passed.foldl (fun offset c => offset + c.utf8Size) mark.offset⟩

/-- The position after a line break. -/
def newline (mark : Mark) : Mark :=
  ⟨mark.line + 1, 0, 0⟩

end Mark

/-! ## Classes of characters -/

/-- A character that may stand in a text at all. -/
def isReadable (c : Char) : Bool :=
  let n := c.toNat
  n == 9 || n == 10 || n == 13 || (0x20 ≤ n && n ≤ 0x7e) || n == 0x85 ||
    (0xa0 ≤ n && n ≤ 0xfffd) || 0x10000 ≤ n

/-- Line ends of all kinds become line feeds, except the two separators, which are kept. -/
def evenBreaks : List Char → List Char
  | [] => []
  | '\r' :: '\n' :: rest => '\n' :: evenBreaks rest
  | c :: rest => (if c = '\r' || c.toNat = 0x85 then '\n' else c) :: evenBreaks rest

/-- A line break, once line ends are alike. -/
def isBreak (c : Char) : Bool :=
  c == '\n' || c.toNat == 0x2028 || c.toNat == 0x2029

/-- A blank within a line. -/
def isSpace (c : Char) : Bool :=
  c == ' ' || c == '\t'

/-- A blank, a line break, or the end of the text comes next. -/
def endsWord : List Char → Bool
  | [] => true
  | c :: _ => isSpace c || isBreak c

/-- Blanks and a remark, up to the end of a line. -/
def lineFiller (cs : List Char) : List Char :=
  let blanks := cs.takeWhile isSpace
  let after := cs.drop blanks.length
  blanks ++ if after.head? = some '#' then after.takeWhile (!isBreak ·) else []

/-- Three hyphens or dots that stand alone, which separate documents at the start of a line. -/
def isDocumentMark : List Char → Bool
  | '-' :: '-' :: '-' :: rest => endsWord rest
  | '.' :: '.' :: '.' :: rest => endsWord rest
  | _ => false

/-! ## Gaps between words -/

/-- Blanks and line breaks that have been passed since the last word. -/
structure Gap where
  blanks : List Char
  /-- The first line break, if blanks have been left behind. -/
  first : List Char
  more : List Char
  broken : Bool
  deriving DecidableEq, Repr

namespace Gap

/-- No gap. -/
def none : Gap := ⟨[], [], [], false⟩

/-- The gap after a line break that has been escaped. -/
def escaped : Gap := ⟨[], [], [], true⟩

/-- The gap with one more blank or line break. -/
def add (gap : Gap) (c : Char) : Gap :=
  if isBreak c then
    if gap.broken then { gap with more := gap.more ++ [c] }
    else ⟨[], [c], [], true⟩
  else if gap.broken then gap
  else { gap with blanks := gap.blanks ++ [c] }

/-- What stands for the gap in the scalar. -/
def text (gap : Gap) : List Char :=
  if gap.broken then
    if gap.first = ['\n'] then if gap.more.isEmpty then [' '] else gap.more
    else gap.first ++ gap.more
  else gap.blanks

end Gap

/-- A text that is collected backwards, with a gap after it and a character after that. -/
def extend
    (content : List Char) (gap : Gap) (c : Char) : List Char :=
  c :: (gap.text.reverse ++ content)

/-- What a reader has read, and where it stopped. -/
structure ScalarEnd where
  content : List Char
  /-- A line break has been passed after the last word. -/
  broken : Bool
  rest : List Char
  mark : Mark
  deriving Repr

/-! ## Plain scalars -/

/-- A character that ends a plain scalar inside brackets. -/
def isFlowIndicator (c : Char) : Bool :=
  [',', '[', ']', '\x7b', '\x7d'].contains c

/-- The text goes on with a colon that ends a plain scalar, or with an indicator of its brackets. -/
def endsPlain (inFlow : Bool) : List Char → Bool
  | [] => true
  | c :: rest => (c == ':' && endsWord rest) || (inFlow && isFlowIndicator c)

/-- A colon inside brackets that is followed by an indicator has no meaning. -/
def isStrayColon (inFlow : Bool) : List Char → Bool
  | ':' :: c :: _ => inFlow && (isFlowIndicator c || c == '?')
  | _ => false

/-- A plain scalar, which outside brackets must stay right of a margin.  Lines that begin left of
it, remarks, and marks between documents end the scalar. -/
def readPlain
    (inFlow : Bool) (margin : Nat) :
    List Char → Mark → List Char → Gap → Bool → Option ScalarEnd
  | [], mark, content, gap, _ => some ⟨content.reverse, gap.broken, [], mark⟩
  | c :: rest, mark, content, gap, inWord =>
    if isBreak c then
      readPlain inFlow margin rest mark.newline content (gap.add c) false
    else if isSpace c then
      if gap.broken && mark.column < margin && c == '\t' then none
      else readPlain inFlow margin rest (mark.forward [c]) content (gap.add c) false
    else if !inWord &&
        ((!inFlow && gap.broken && mark.column < margin) || c == '#' ||
          (mark.column == 0 && isDocumentMark (c :: rest))) then
      some ⟨content.reverse, gap.broken, c :: rest, mark⟩
    else if isStrayColon inFlow (c :: rest) then none
    else if endsPlain inFlow (c :: rest) then
      some ⟨content.reverse, gap.broken, c :: rest, mark⟩
    else readPlain inFlow margin rest (mark.forward [c]) (extend content gap c) .none true

/-! ## Quoted scalars -/

/-- The character whose code point is given by so many hexadecimal digits. -/
def hexChar? (count : Nat) (cs : List Char) : Option Char :=
  let digits := cs.take count
  if digits.length < count then none
  else ((wholeIn? 16 digits).filter fun n => n.isValidChar).map Char.ofNat

/-- The character that an escape stands for, and the number of digits after its letter. -/
def escape? : List Char → Option (Char × Nat)
  | '0' :: _ => some (Char.ofNat 0, 0)
  | 'a' :: _ => some (Char.ofNat 7, 0)
  | 'b' :: _ => some (Char.ofNat 8, 0)
  | 't' :: _ => some ('\t', 0)
  | '\t' :: _ => some ('\t', 0)
  | 'n' :: _ => some ('\n', 0)
  | 'v' :: _ => some (Char.ofNat 11, 0)
  | 'f' :: _ => some (Char.ofNat 12, 0)
  | 'r' :: _ => some ('\r', 0)
  | 'e' :: _ => some (Char.ofNat 27, 0)
  | ' ' :: _ => some (' ', 0)
  | '"' :: _ => some ('"', 0)
  | '/' :: _ => some ('/', 0)
  | '\\' :: _ => some ('\\', 0)
  | 'N' :: _ => some (Char.ofNat 0x85, 0)
  | '_' :: _ => some (Char.ofNat 0xa0, 0)
  | 'L' :: _ => some (Char.ofNat 0x2028, 0)
  | 'P' :: _ => some (Char.ofNat 0x2029, 0)
  | 'x' :: rest => (hexChar? 2 rest).map fun c => (c, 2)
  | 'u' :: rest => (hexChar? 4 rest).map fun c => (c, 4)
  | 'U' :: rest => (hexChar? 8 rest).map fun c => (c, 8)
  | _ => none

/-- The rest of a scalar in single quotes, in which a quote is written twice. -/
def readSingle :
    List Char → Mark → List Char → Gap → Option ScalarEnd
  | [], _, _, _ => none
  | '\'' :: '\'' :: rest, mark, content, gap =>
    readSingle rest (mark.forward ['\'', '\'']) (extend content gap '\'') .none
  | c :: rest, mark, content, gap =>
    if isBreak c then readSingle rest mark.newline content (gap.add c)
    else if isSpace c then readSingle rest (mark.forward [c]) content (gap.add c)
    else if mark.column == 0 && isDocumentMark (c :: rest) then none
    else if c = '\'' then some ⟨content.reverse ++ gap.text, false, rest, mark.forward [c]⟩
    else readSingle rest (mark.forward [c]) (extend content gap c) .none

/-- The rest of a scalar in double quotes, in which a backslash begins an escape. -/
def readDouble :
    List Char → Mark → List Char → Gap → Option ScalarEnd
  | [], _, _, _ => none
  | c :: rest, mark, content, gap =>
    if isBreak c then readDouble rest mark.newline content (gap.add c)
    else if isSpace c then readDouble rest (mark.forward [c]) content (gap.add c)
    else if mark.column == 0 && isDocumentMark (c :: rest) then none
    else if c = '"' then some ⟨content.reverse ++ gap.text, false, rest, mark.forward [c]⟩
    else if c = '\\' then
      match rest with
      | [] => none
      | e :: after =>
        if isBreak e then
          readDouble after mark.newline (gap.text.reverse ++ content) .escaped
        else
          match escape? (e :: after) with
          | none => none
          | some (char, digits) =>
            readDouble (after.drop digits) (mark.forward (c :: e :: after.take digits))
              (extend content gap char) .none
    else readDouble rest (mark.forward [c]) (extend content gap c) .none
termination_by cs => cs.length
decreasing_by
  all_goals simp_wf
  all_goals omega

/-! ## Block scalars -/

/-- What happens to the line breaks at the end of a block scalar. -/
inductive Chomping where
  | strip
  | clip
  | keep
  deriving DecidableEq, Repr

/-- The indicators after the mark of a block scalar: how its end is chomped and how deep it is
indented, in either order. -/
def readHeader : List Char → Option (Chomping × Option Nat × Nat)
  | c :: rest =>
    match chomping? c with
    | some chomping =>
      match rest.head? with
      | some d =>
        if d.isDigit then
          if d = '0' then none else some (chomping, some (d.toNat - '0'.toNat), 2)
        else some (chomping, none, 1)
      | none => some (chomping, none, 1)
    | none =>
      if c.isDigit then
        if c = '0' then none
        else
          match rest.head?.bind chomping? with
          | some chomping => some (chomping, some (c.toNat - '0'.toNat), 2)
          | none => some (.clip, some (c.toNat - '0'.toNat), 1)
      else some (.clip, none, 0)
  | [] => some (.clip, none, 0)
where
  /-- The chomping that a sign asks for. -/
  chomping? (c : Char) : Option Chomping :=
    if c = '-' then some .strip else if c = '+' then some .keep else none

/-- Where the lines of a block scalar go on: after blanks up to its indentation and empty lines. -/
structure BlockStart where
  breaks : List Char
  /-- The deepest column that has been reached. -/
  deepest : Nat
  rest : List Char
  mark : Mark
  deriving Repr

/-- Empty lines are passed, and blanks left of the indentation, or all blanks if it is open. -/
def passBreaks (indent? : Option Nat) :
    List Char → Mark → List Char → Nat → Option BlockStart
  | [], mark, breaks, deepest => some ⟨breaks, max deepest mark.column, [], mark⟩
  | c :: rest, mark, breaks, deepest =>
    let left := indent?.all fun indent => mark.column < indent
    if c = ' ' && left then passBreaks indent? rest (mark.forward [c]) breaks deepest
    else if c = '\t' && left then none
    else if isBreak c then
      passBreaks indent? rest mark.newline (breaks ++ [c]) (max deepest mark.column)
    else some ⟨breaks, max deepest mark.column, c :: rest, mark⟩

/-- The lines of a block scalar.  `pending` is the break that ended the last line, `blankLead` says
that this line began with a blank. -/
def readLines
    (folded : Bool) (indent : Nat) :
    Nat → BlockStart → List Char → List Char → Bool → Option (ScalarEnd × List Char × List Char)
  | 0, _, _, _, _ => none
  | count + 1, start, content, pending, blankLead =>
    match start.rest with
    | [] => some (⟨content, false, [], start.mark⟩, pending, start.breaks)
    | c :: _ =>
      if start.mark.column ≠ indent then
        some (⟨content, false, start.rest, start.mark⟩, pending, start.breaks)
      else
        let joined :=
          if folded && pending == ['\n'] && !blankLead && !isSpace c then
            if start.breaks.isEmpty then [' '] else []
          else pending
        let line := start.rest.takeWhile fun c => !isBreak c
        let after := start.rest.drop line.length
        let content := content ++ joined ++ start.breaks ++ line
        let mark := start.mark.forward line
        let next :=
          match after with
          | [] => passBreaks (some indent) [] mark [] 0
          | _ :: below => passBreaks (some indent) below mark.newline [] 0
        match next with
        | none => none
        | some next => readLines folded indent count next content (after.take 1) (isSpace c)

/-- A block scalar after its mark, inside a margin. -/
def readBlock
    (folded : Bool) (margin : Nat) (cs : List Char) (mark : Mark) : Option ScalarEnd :=
  match readHeader cs with
  | none => none
  | some (chomping, increment?, signs) =>
    let afterSigns := cs.drop signs
    let filler := lineFiller afterSigns
    let lineEnd := afterSigns.drop filler.length
    let endMark := mark.forward (cs.take signs ++ filler)
    let below? :=
      match lineEnd with
      | [] => some ([], endMark)
      | c :: below => if isBreak c then some (below, endMark.newline) else none
    match below? with
    | none => none
    | some (below, belowMark) =>
      let given? := increment?.map fun increment => margin - 1 + increment
      match passBreaks given? below belowMark [] 0 with
      | none => none
      | some start =>
        let indent := given?.getD (max start.deepest (max margin 1))
        match readLines folded indent (below.length + 1) start [] [] false with
        | none => none
        | some (scalar, last, more) =>
          let closing :=
            match chomping with
            | .strip => []
            | .clip => last
            | .keep => last ++ more
          some { scalar with content := scalar.content ++ closing }

end Yaml
end RecordConversion
