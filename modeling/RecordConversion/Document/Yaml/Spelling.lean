/-!
# Spellings that are taken for something else

A plain scalar that spells nothing, a truth value or a number is read as that.  A text with such a
spelling has to be quoted.  Numbers are signed decimals with an optional fraction and exponent,
whole numbers with a prefix for their base, and the words for infinity and for no number; a decimal
whose value is beyond all floating-point numbers is none.
-/

namespace RecordConversion
namespace Yaml

/-- The spellings of an absent value and of the truth values. -/
def words : List String :=
  ["", "~", "null", "Null", "NULL", "true", "True", "TRUE", "false", "False", "FALSE"]

/-- A plus or minus sign. -/
def isSign (c : Char) : Bool :=
  c == '+' || c == '-'

/-- A text without one plus sign before it. -/
def withoutPlus : List Char → List Char
  | '+' :: rest => rest
  | cs => cs

/-- A text without one sign before it. -/
def withoutSign : List Char → List Char
  | [] => []
  | c :: rest => if isSign c then rest else c :: rest

/-- The value of a digit in a base. -/
def digitIn? (base : Nat) (c : Char) : Option Nat :=
  let value? :=
    if '0' ≤ c && c ≤ '9' then some (c.toNat - '0'.toNat)
    else if 'a' ≤ c && c ≤ 'f' then some (c.toNat - 'a'.toNat + 10)
    else if 'A' ≤ c && c ≤ 'F' then some (c.toNat - 'A'.toNat + 10)
    else none
  value?.filter fun value => value < base

/-- The number that digits spell in a base. -/
def wholeIn? (base : Nat) (cs : List Char) : Option Nat :=
  if cs.isEmpty then none
  else (cs.mapM (digitIn? base)).map fun digits => digits.foldl (fun n d => base * n + d) 0

/-- The bases that have a prefix. -/
def bases : List (List Char × Nat) :=
  [(['0', 'x'], 16), (['0', 'o'], 8), (['0', 'b'], 2)]

/-- The number after the prefix of a base is below a limit. -/
def isPrefixed (cs : List Char) (limit : Nat) : Bool :=
  bases.any fun (lead, base) =>
    lead.isPrefixOf cs && (wholeIn? base (cs.drop lead.length)).any (· < limit)

/-- A whole number with the prefix of a base: 128 bits, or 127 and a minus sign. -/
def isBasedNumber (cs : List Char) : Bool :=
  isPrefixed (withoutPlus cs) (Nat.pow 2 128) ||
    (match cs with
      | '-' :: rest => isPrefixed rest (Nat.pow 2 127 + 1)
      | _ => false)

/-- Digits after a leading zero, with or without a sign. -/
def isZeroLed (cs : List Char) : Bool :=
  match withoutSign cs with
  | '0' :: c :: rest => (c :: rest).all Char.isDigit
  | _ => false

/-- The exponent at the end of a decimal. -/
def exponent? : List Char → Option Int
  | [] => some 0
  | c :: rest =>
    if c = 'e' || c = 'E' then
      match rest with
      | '-' :: digits => (wholeIn? 10 digits).map fun n => -(n : Int)
      | _ => (wholeIn? 10 (withoutPlus rest)).map fun n => (n : Int)
    else none

/-- A whole number times a power of ten is less than what rounds to infinity. -/
def isFinite (whole : Nat) (scale : Int) : Bool :=
  let overflow := Nat.pow 2 1024 - Nat.pow 2 970
  if whole = 0 then true
  else if scale > 400 then false
  else if 0 ≤ scale then whole * Nat.pow 10 scale.toNat < overflow
  else
    let shift := (-scale).toNat
    if (Nat.toDigits 10 whole).length < shift then true else whole < overflow * Nat.pow 10 shift

/-- An unsigned decimal with a finite value. -/
def isDecimal (cs : List Char) : Bool :=
  let whole := cs.takeWhile Char.isDigit
  let afterWhole := cs.drop whole.length
  let (fraction, rest) :=
    match afterWhole with
    | '.' :: more => (more.takeWhile Char.isDigit, more.dropWhile Char.isDigit)
    | _ => ([], afterWhole)
  match wholeIn? 10 (whole ++ fraction), exponent? rest with
  | some digits, some exponent => isFinite digits (exponent - fraction.length)
  | _, _ => false

/-- The words for infinity and for no number. -/
def isSpecialNumber (cs : List Char) : Bool :=
  let infinity := [".inf", ".Inf", ".INF"].map String.toList
  infinity.contains (withoutPlus cs) ||
    (match cs with
      | '-' :: rest => infinity.contains rest
      | _ => false) ||
    ([".nan", ".NaN", ".NAN"].map String.toList).contains cs

/-- A plain scalar with this spelling is not taken for a text, or has the look of a number. -/
def isTaken (s : String) : Bool :=
  let cs := s.toList
  let unsigned :=
    match cs with
    | '+' :: rest => if rest.head?.any isSign then [] else rest
    | '-' :: rest => rest
    | _ => cs
  words.contains s || isBasedNumber cs || isZeroLed cs || isSpecialNumber cs || isDecimal unsigned

end Yaml
end RecordConversion
