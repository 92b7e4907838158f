/-!
# Ranges of code points

Tables of character properties list closed ranges of code points.  A stepped range takes every
`step`-th code point from its first on, which keeps alternating alphabets short.
-/

namespace RecordConversion
namespace Text

/-- Closed ranges of code points. -/
abbrev Ranges := List (Nat × Nat)

/-- A character lies in one of the ranges. -/
def Ranges.contains
    (ranges : Ranges) (c : Char) : Bool :=
  ranges.any fun r => r.1 ≤ c.toNat && c.toNat ≤ r.2

/-- The code points `first`, `first + step`, … up to `last`. -/
structure SteppedRange where
  first : Nat
  last : Nat
  step : Nat
  deriving DecidableEq, Repr

/-- A character is one of the code points of the range. -/
def SteppedRange.contains
    (range : SteppedRange) (c : Char) : Bool :=
  range.first ≤ c.toNat && c.toNat ≤ range.last && (c.toNat - range.first) % range.step == 0

/-- The characters of a range stand at one distance from their other case. -/
structure CaseShift where
  range : SteppedRange
  distance : Int
  deriving DecidableEq, Repr

end Text
end RecordConversion
