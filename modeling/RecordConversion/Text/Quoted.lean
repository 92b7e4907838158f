import RecordConversion.Text.Letter
import RecordConversion.Text.PrintableRanges

/-!
# Quoted text in messages

A message quotes a name in double quotes.  The quote, the backslash and the common controls have
short escapes; every other character that would not show on its own is given by its code point in
hexadecimal.
-/

namespace RecordConversion
namespace Text

/-- The character shows on its own. -/
def isPrintable (c : Char) : Bool :=
  if isAscii c then 0x20 ≤ c.toNat && c.toNat < 0x7f
  else !unprintableRanges.contains c

/-- The character joins the one before it. -/
def isCombining (c : Char) : Bool :=
  !isAscii c && combiningRanges.contains c

/-- The code point of a character, as an escape. -/
def codePointEscape (c : Char) : List Char :=
  ['\\', 'u', '\x7b'] ++ Nat.toDigits 16 c.toNat ++ ['\x7d']

/-- How one character is written between quotes. -/
def quotedChar (c : Char) : List Char :=
  if c = '"' then ['\\', '"']
  else if c = '\\' then ['\\', '\\']
  else if c = '\n' then ['\\', 'n']
  else if c = '\r' then ['\\', 'r']
  else if c = '\t' then ['\\', 't']
  else if c = Char.ofNat 0 then ['\\', '0']
  else if isCombining c || !isPrintable c then codePointEscape c
  else [c]

/-- A string in double quotes. -/
def quoted (s : String) : String :=
  String.ofList ('"' :: s.toList.flatMap quotedChar ++ ['"'])

end Text
end RecordConversion
