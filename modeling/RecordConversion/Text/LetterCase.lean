import RecordConversion.Text.CaseShifts
import RecordConversion.Text.CasedRanges
import RecordConversion.Text.Letter

/-!
# Lower and upper case

`lowercase` maps a whole string; names that differ in case only have the same lower case.  A capital
sigma at the end of a word becomes the final small sigma.  `capitalized` raises the first character
of a part of a name and keeps the rest.
-/

namespace RecordConversion
namespace Text

/-- The character at a distance from another one. -/
def shifted
    (c : Char) (distance : Int) : Char :=
  Char.ofNat (c.toNat + distance).toNat

/-- The first table row that holds the character moves it. -/
def shiftedBy
    (shifts : List CaseShift) (c : Char) : Char :=
  match shifts.find? (·.range.contains c) with
  | some s => shifted c s.distance
  | none => c

/-- Capital I with a dot above becomes a small i and a combining dot; all else is one character. -/
def lowerOf (c : Char) : List Char :=
  if isAscii c then [c.toLower]
  else if c.toNat = 0x130 then ['i', Char.ofNat 0x307]
  else [shiftedBy lowercaseShifts c]

/-- The upper case of a character, of up to three characters. -/
def upperOf (c : Char) : List Char :=
  if isAscii c then [c.toUpper]
  else
    match uppercaseExpansions.find? (·.1 == c.toNat) with
    | some e => e.2.map Char.ofNat
    | none => [shiftedBy uppercaseShifts c]

/-- A character that has a case. -/
def isCased (c : Char) : Bool :=
  if isAscii c then c.isAlpha else casedRanges.contains c

/-- A character that is skipped on the way to a cased neighbour. -/
def isCaseIgnorable (c : Char) : Bool :=
  if isAscii c then ['\'', '.', ':', '^', Char.ofNat 0x60].contains c
  else caseIgnorableRanges.contains c

/-- The nearest character that is not skipped is cased. -/
def nextIsCased (cs : List Char) : Bool :=
  match cs.dropWhile isCaseIgnorable with
  | c :: _ => isCased c
  | [] => false

/-- Lower case of a text whose characters before it, last first, are `before`. -/
def lowerAfter
    (before : List Char) : List Char → List Char
  | [] => []
  | c :: rest =>
    let here :=
      if c.toNat = 0x3a3 then
        [if nextIsCased before && !nextIsCased rest then Char.ofNat 0x3c2 else Char.ofNat 0x3c3]
      else lowerOf c
    here ++ lowerAfter (c :: before) rest

/-- The lower case of a string. -/
def lowercase (s : String) : String :=
  String.ofList (lowerAfter [] s.toList)

/-- The first character in upper case, the others as they are. -/
def capitalized : List Char → List Char
  | [] => []
  | c :: rest => upperOf c ++ rest

end Text
end RecordConversion
