/-!
# YAML text: positions, errors, characters and tokens

A position in a YAML text has `index`, the number of bytes before it in the UTF-8 text, and
`line` and `column` from zero, where the column counts characters.

An error names the problem and where it was found, and may name what was being read when it
happened and where that began. Errors found while decoding the text have no line and column,
only the byte offset of the offending character.
-/

namespace FirmwareRedirect.Yaml

/-- A position in the text. -/
structure Mark where
  index : Nat
  line : Nat
  column : Nat
  deriving Repr, Inhabited, DecidableEq

/-- The start of the text. -/
def Mark.origin : Mark := ⟨0, 0, 0⟩

/-- "line L column C", counting from one. -/
def Mark.text (m : Mark) : String :=
  "line " ++ toString (m.line + 1) ++ " column " ++ toString (m.column + 1)

/-- Whether a mark is anywhere but the very start. -/
def Mark.isSet (m : Mark) : Bool := m.line != 0 || m.column != 0

/-- An error in a YAML text. -/
structure YamlError where
  /-- What is wrong. -/
  problem : String
  /-- Where it is wrong. -/
  problemMark : Mark
  /-- The byte offset of a character that may not appear in YAML at all. -/
  offset : Nat
  /-- What was being read, and where it began. -/
  context : Option (String × Mark)
  deriving Repr, Inhabited

/-- The text of an error: the problem and its position, then what was being read and where it
began when that is somewhere else. -/
def YamlError.render (e : YamlError) : String :=
  let head :=
    if e.problemMark.isSet then e.problem ++ " at " ++ e.problemMark.text
    else if e.offset != 0 then e.problem ++ " at position " ++ toString e.offset
    else e.problem
  match e.context with
  | none => head
  | some (c, m) =>
    let same := m.line == e.problemMark.line && m.column == e.problemMark.column
    if m.isSet && !same then head ++ ", " ++ c ++ " at " ++ m.text else head ++ ", " ++ c

/-- Space or tab. -/
def isBlank (c : Char) : Bool := c == ' ' || c == '\t'

/-- The end of the text, seen as a NUL character. -/
def isEnd (c : Char) : Bool := c == '\x00'

/-- A line break: carriage return, line feed, next line, line separator or paragraph
separator. -/
def isBreak (c : Char) : Bool :=
  c == '\r' || c == '\n' || c == '\x85' || c == '\u2028' || c == '\u2029'

/-- A line break or the end. -/
def isBreakEnd (c : Char) : Bool := isBreak c || isEnd c

/-- A blank, a line break or the end. -/
def isBlankEnd (c : Char) : Bool := isBlank c || isBreakEnd c

/-- A letter, digit, underscore or hyphen: the characters of anchors and tag handles. -/
def isWordChar (c : Char) : Bool := c.isAlphanum || c == '_' || c == '-'

/-- A hexadecimal digit. -/
def isHexDigit (c : Char) : Bool :=
  c.isDigit || ('a' ≤ c && c ≤ 'f') || ('A' ≤ c && c ≤ 'F')

/-- The value of a hexadecimal digit. -/
def hexValue (c : Char) : Nat :=
  if c.isDigit then c.toNat - '0'.toNat
  else if 'a' ≤ c && c ≤ 'f' then c.toNat - 'a'.toNat + 10
  else c.toNat - 'A'.toNat + 10

/-- Whether a character may appear in a YAML text: tab, line breaks, printable ASCII, next
line, and the rest of Unicode but surrogates, U+FFFE and U+FFFF. -/
def isAllowedChar (c : Char) : Bool :=
  let v := c.toNat
  v == 0x09 || v == 0x0A || v == 0x0D || (0x20 ≤ v && v ≤ 0x7E) || v == 0x85 ||
    (0xA0 ≤ v && v ≤ 0xD7FF) || (0xE000 ≤ v && v ≤ 0xFFFD) || (0x10000 ≤ v && v ≤ 0x10FFFF)

/-- How a scalar was written. -/
inductive ScalarStyle where
  | plain
  | singleQuoted
  | doubleQuoted
  | literal
  | folded
  deriving Repr, Inhabited, DecidableEq

/-- The kinds of token. Tags are bytes: a tag may spell bytes with %-escapes. -/
inductive TokenKind where
  | streamStart
  | streamEnd
  | versionDirective (major minor : Nat)
  | tagDirective (handle pfx : List UInt8)
  | documentStart
  | documentEnd
  | blockSequenceStart
  | blockMappingStart
  | blockEnd
  | flowSequenceStart
  | flowSequenceEnd
  | flowMappingStart
  | flowMappingEnd
  | blockEntry
  | flowEntry
  | key
  | value
  | alias (name : String)
  | anchor (name : String)
  | tag (handle suffix : List UInt8)
  | scalar (text : String) (style : ScalarStyle)
  deriving Repr, Inhabited

/-- A token and the span of text it covers. -/
structure Token where
  kind : TokenKind
  start : Mark
  stop : Mark
  deriving Repr, Inhabited

end FirmwareRedirect.Yaml
