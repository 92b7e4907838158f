import RecordConversion.Text.AlphabeticRanges
import RecordConversion.Text.NumericRanges
import RecordConversion.Text.UppercaseRanges

/-!
# Letters, digits and identifiers

The character classes that names are made of.  ASCII is decided by comparison, all else by the
tables of the properties.
-/

namespace RecordConversion
namespace Text

/-- The character is in the ASCII half of the first byte. -/
def isAscii (c : Char) : Bool :=
  c.toNat < 128

/-- The Alphabetic property. -/
def isAlphabetic (c : Char) : Bool :=
  if isAscii c then c.isAlpha else alphabeticRanges.contains c

/-- Decimal digits, letter numbers and other numbers. -/
def isNumeric (c : Char) : Bool :=
  if isAscii c then c.isDigit else numericRanges.contains c

/-- Letters and numbers. -/
def isAlphanumeric (c : Char) : Bool :=
  isAlphabetic c || isNumeric c

/-- The Uppercase property. -/
def isUppercase (c : Char) : Bool :=
  if isAscii c then c.isUpper else uppercaseRanges.any (·.contains c)

/-- A character that may begin an identifier. -/
def isIdentifierStart (c : Char) : Bool :=
  isAlphabetic c || c == '_'

/-- A character that may stand further on in an identifier. -/
def isIdentifierPart (c : Char) : Bool :=
  isAlphanumeric c || c == '_'

/-- A letter or underscore, then letters, numbers and underscores. -/
def isIdentifier : List Char → Bool
  | [] => false
  | c :: rest => isIdentifierStart c && rest.all isIdentifierPart

end Text
end RecordConversion
