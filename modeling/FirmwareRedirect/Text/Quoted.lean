import FirmwareRedirect.Text.Unicode.GraphemeExtend
/-!
# Quoted text

Messages name untrusted text, such as device IDs, firmware versions and request paths, in quoted
form, so that every character of it can be seen. The text goes between double quotes. Backslash,
the double quote, tab, carriage return, line feed and NUL get a backslash escape. Every character
that is a grapheme extender, or is not printable, is written as `\u{…}` with its code point in
lowercase hexadecimal and no padding. Every other character, the single quote included, stands
for itself.
-/

namespace FirmwareRedirect.Text

/-- The lowercase hexadecimal digits of `n`, with no padding. -/
def lowerHex (n : Nat) : List Char := Nat.toDigits 16 n

/-- The escape `\u{…}` for a code point. -/
def unicodeEscape (n : Nat) : List Char :=
  ['\\', 'u', '\x7b'] ++ lowerHex n ++ ['\x7d']

/-- How one character is written between the quotes. -/
def escapeChar (c : Char) : List Char :=
  if c = '\\' then ['\\', '\\']
  else if c = '"' then ['\\', '"']
  else if c = '\t' then ['\\', 't']
  else if c = '\r' then ['\\', 'r']
  else if c = '\n' then ['\\', 'n']
  else if c = '\x00' then ['\\', '0']
  else if Unicode.isGraphemeExtend c || !Unicode.isPrintable c then unicodeEscape c.toNat
  else [c]

/-- The quoted form of a list of characters, quotes included. -/
def quoteChars (cs : List Char) : List Char :=
  '"' :: cs.flatMap escapeChar ++ ['"']

/-- The quoted form of a string. -/
def quote (s : String) : String :=
  String.ofList (quoteChars s.toList)

end FirmwareRedirect.Text
