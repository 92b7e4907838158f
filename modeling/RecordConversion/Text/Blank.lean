/-!
# Blank characters

A character is blank when it has the White_Space property.  Text is trimmed at its ends by that
property, on lists of characters; `trim` is the same on strings.
-/

namespace RecordConversion
namespace Text

/-- The White_Space property: controls that move the cursor, and the visible-width separators. -/
def isBlank (c : Char) : Bool :=
  let n := c.toNat
  (9 ≤ n && n ≤ 13) || n == 0x20 || n == 0x85 || n == 0xa0 || n == 0x1680 ||
    (0x2000 ≤ n && n ≤ 0x200a) || n == 0x2028 || n == 0x2029 || n == 0x202f || n == 0x205f ||
    n == 0x3000

/-- Leading blanks are dropped. -/
def dropBlanks (cs : List Char) : List Char :=
  cs.dropWhile isBlank

/-- Trailing characters with a property are dropped. -/
def dropTrailing
    (p : Char → Bool) (cs : List Char) : List Char :=
  (cs.reverse.dropWhile p).reverse

/-- Blanks at both ends are dropped. -/
def strip (cs : List Char) : List Char :=
  dropTrailing isBlank (dropBlanks cs)

/-- A string without the blanks at its ends. -/
def trim (s : String) : String :=
  String.ofList (strip s.toList)

theorem length_dropBlanks_le
    (cs : List Char) :
    (dropBlanks cs).length ≤ cs.length :=
  (List.dropWhile_suffix isBlank).length_le

theorem length_dropTrailing_le
    (p : Char → Bool) (cs : List Char) :
    (dropTrailing p cs).length ≤ cs.length := by
  have shorter : (cs.reverse.dropWhile p).length ≤ cs.reverse.length :=
    (List.dropWhile_suffix p).length_le
  simpa [dropTrailing] using shorter

theorem length_strip_le
    (cs : List Char) :
    (strip cs).length ≤ cs.length :=
  Nat.le_trans (length_dropTrailing_le isBlank _) (length_dropBlanks_le cs)

end Text
end RecordConversion
