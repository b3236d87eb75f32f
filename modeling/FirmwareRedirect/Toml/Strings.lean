import FirmwareRedirect.Toml.Cursor
/-!
# TOML strings and the blanks between tokens

The four kinds of TOML strings: basic (`"…"`, with escapes), literal (`'…'`, taken as is), and
their multi-line forms with three quotes. A newline right after the opening quotes of a
multi-line string is dropped; in a multi-line basic string a backslash at the end of a line drops
the line break and the blanks after it. Also here: blanks, newlines and comments.
-/

namespace FirmwareRedirect.Toml

open Reader

/-- The byte value of an ASCII character. -/
def ascii (c : Char) : UInt8 := c.toNat.toUInt8

/-- Repeat `r` while it succeeds and moves on; the results in order. -/
def many {α : Type} (r : Reader α) : Reader (List α) := do
  let fuel := (← read).size - (← get) + 1
  let rec go : Nat → List α → Reader (List α)
    | 0, acc => return acc.reverse
    | n + 1, acc => do
      let start ← get
      match ← opt r with
      | some a => if (← get) == start then return (a :: acc).reverse else go n (a :: acc)
      | none => return acc.reverse
  go fuel []

/-- `r` at least once. -/
def many1 {α : Type} (r : Reader α) : Reader (List α) := do
  let a ← r
  let rest ← many r
  return a :: rest

/-- One or more `r` separated by `sep`. A separator not followed by an `r` is left unread. -/
def sepBy1 {α β : Type} (r : Reader α) (sep : Reader β) : Reader (List α) := do
  let a ← r
  let rest ← many (do let _ ← sep; r)
  return a :: rest

/-- Zero or more `r` separated by `sep`. -/
def sepBy {α β : Type} (r : Reader α) (sep : Reader β) : Reader (List α) := do
  match ← opt r with
  | none => return []
  | some a =>
    let rest ← many (do let _ ← sep; r)
    return a :: rest

/-- Blanks: spaces and tabs. -/
def ws : Reader Unit := takeWhile isBlank 0

/-- A line break: LF or CR LF. -/
def newline : Reader Unit :=
  alt [byte 10, do byte 13; byte 10]

/-- Bytes allowed in a comment. -/
def isCommentByte (b : UInt8) : Bool := b == 9 || (0x20 ≤ b && b ≤ 0x7E) || isNonAscii b

/-- A comment, up to the end of its line. -/
def comment : Reader Unit := do byte (ascii '#'); takeWhile isCommentByte 0

/-- The end of a line: a line break or the end of input. -/
def lineEnding : Reader Unit := alt [newline, eof]

/-- Blanks, a comment perhaps, and the end of the line. -/
def lineTrailing : Reader Unit := do ws; let _ ← opt comment; lineEnding

/-- Blanks, comments and line breaks, as between the values of an array. -/
def wsCommentNewline : Reader Unit := do
  let fuel := (← read).size - (← get) + 1
  let rec go : Nat → Reader Unit
    | 0 => pure ()
    | n + 1 => do
      let start ← get
      ws
      match ← peek? with
      | some 35 => comment; newline
      | some 10 => newline
      | some 13 => newline
      | _ => return ()
      if (← get) == start then return () else go n
  go fuel

/-- Blanks and line breaks. -/
def wsNewline : Reader Unit := do
  let _ ← many (alt [newline, takeWhile isBlank 1])

/-- A line break, then blanks and line breaks. -/
def wsNewlines : Reader Unit := do newline; wsNewline

/-- Bytes that stand for themselves in a basic string. -/
def isBasicUnescaped (b : UInt8) : Bool :=
  isBlank b || b == 0x21 || (0x23 ≤ b && b ≤ 0x5B) || (0x5D ≤ b && b ≤ 0x7E) || isNonAscii b

/-- The UTF-8 bytes of a character. -/
def utf8 (c : Char) : List UInt8 := String.utf8EncodeChar c

/-- The value of a hexadecimal digit. -/
def hexValue (b : UInt8) : Nat :=
  if isDigit b then b.toNat - 48 else if b ≤ 70 then b.toNat - 55 else b.toNat - 87

/-- Exactly `n` hexadecimal digits naming a Unicode scalar value. -/
def hexEscape (n : Nat) : Reader (List UInt8) := do
  let start ← get
  let count ← takeUpTo isHexDigit n
  if count ≠ n then throw { pos := start }
  let bs ← read
  let v := ((bs.extract start (start + n)).toList).foldl (fun acc b => acc * 16 + hexValue b) 0
  if v < 0xD800 ∨ (0xDFFF < v ∧ v < 0x110000) then return utf8 (Char.ofNat v)
  else throw { pos := start, cause := some "value is out of range" }

/-- The character after a backslash. -/
def escapeSeqChar : Reader (List UInt8) := do
  let b ← anyByte
  if b == ascii 'b' then return [8]
  else if b == ascii 'f' then return [12]
  else if b == ascii 'n' then return [10]
  else if b == ascii 'r' then return [13]
  else if b == ascii 't' then return [9]
  else if b == ascii '\\' then return [92]
  else if b == ascii '"' then return [34]
  else if b == ascii 'u' then label "unicode 4-digit hex code" (cut (hexEscape 4))
  else if b == ascii 'U' then label "unicode 8-digit hex code" (cut (hexEscape 8))
  else
    let hints := ["b", "f", "n", "r", "t", "u", "U", "\\", "\""].map fun c => Hint.expected ("`" ++ c ++ "`")
    throw { pos := ← get, hints := .label "escape sequence" :: hints, final := true }

/-- A backslash escape. -/
def escaped : Reader (List UInt8) := do byte 92; escapeSeqChar

/-- A run of plain bytes or one escape, inside a basic string. -/
def basicChars : Reader (List UInt8) := do
  alt [do let s ← get; takeWhile isBasicUnescaped 1; let e ← get; return ((← read).extract s e).toList,
       escaped]

/-- The text of collected UTF-8 bytes. -/
def textOf (bs : List UInt8) : String := (String.fromUTF8? (ByteArray.mk bs.toArray)).getD ""

/-- A basic string, `"…"`. -/
def basicString : Reader String := do
  byte 34
  let parts ← many basicChars
  label "basic string" (cut (byte 34))
  return textOf parts.flatten

/-- Bytes that stand for themselves in a multi-line basic string. -/
def isMlbUnescaped (b : UInt8) : Bool := isBasicUnescaped b

/-- A backslash at the end of a line, with the line breaks and blanks it drops. -/
def mlbEscapedNl : Reader Unit := do
  let _ ← many1 (do byte 92; ws; wsNewlines)

/-- A piece of a multi-line basic string. -/
def mlbContent : Reader (List UInt8) :=
  alt [do let s ← get; takeWhile isMlbUnescaped 1; let e ← get; return ((← read).extract s e).toList,
       do mlbEscapedNl; return [],
       escaped,
       do newline; return [10]]

/-- One or two quotes inside a multi-line string, followed by what `term` accepts. -/
def quotesBefore (q : UInt8) (term : Reader Unit) : Reader (List UInt8) := do
  let start ← get
  tryCatch (do byte q; byte q; lookahead term; return [q, q]) fun f =>
    if f.final then throw f else do
      set start
      byte q; lookahead term; return [q]

/-- Anything but a given byte, not taken. -/
def noneOf (q : UInt8) : Reader Unit := do let _ ← satisfy (· != q)

/-- The body of a multi-line basic string. -/
def mlBasicBody : Reader (List UInt8) := do
  let first ← many mlbContent
  let mut acc := first.flatten
  let fuel := (← read).size - (← get) + 1
  let rec loop : Nat → List UInt8 → Reader (List UInt8)
    | 0, acc => return acc
    | n + 1, acc => do
      match ← opt (quotesBefore 34 (noneOf 34)) with
      | none => return acc
      | some qi =>
        match ← opt mlbContent with
        | none => return acc
        | some ci =>
          let more ← many mlbContent
          loop n (acc ++ qi ++ ci ++ more.flatten)
  acc ← loop fuel acc
  match ← opt (quotesBefore 34 (literal "\"\"\"")) with
  | some qi => return acc ++ qi
  | none => return acc

/-- A multi-line basic string, `"""…"""`. -/
def mlBasicString : Reader String :=
  label "multiline basic string" do
    literal "\"\"\""
    let _ ← opt newline
    let body ← cut mlBasicBody
    cut (literal "\"\"\"")
    return textOf body

/-- Bytes allowed in a literal string. -/
def isLiteralChar (b : UInt8) : Bool :=
  b == 9 || (0x20 ≤ b && b ≤ 0x26) || (0x28 ≤ b && b ≤ 0x7E) || isNonAscii b

/-- A literal string, `'…'`. -/
def literalString : Reader String :=
  label "literal string" do
    byte 39
    let s ← cut (recognize (takeWhile isLiteralChar 0))
    cut (byte 39)
    return s

/-- A piece of a multi-line literal string. -/
def mllContent : Reader Unit := alt [do let _ ← satisfy isLiteralChar, newline]

/-- CR LF pairs become LF. -/
def joinCrLf : List Char → List Char
  | '\r' :: '\n' :: rest => '\n' :: joinCrLf rest
  | c :: rest => c :: joinCrLf rest
  | [] => []

/-- A multi-line literal string, `'''…'''`. -/
def mlLiteralString : Reader String :=
  label "multiline literal string" do
    literal "'''"
    let _ ← opt newline
    let body ← cut (recognize do
      let _ ← many mllContent
      let _ ← many (do let _ ← quotesBefore 39 (noneOf 39); let _ ← many1 mllContent)
      let _ ← opt (quotesBefore 39 (literal "'''")))
    cut (literal "'''")
    return String.ofList (joinCrLf body.toList)

/-- Any TOML string. -/
def string : Reader String := alt [mlBasicString, basicString, mlLiteralString, literalString]

end FirmwareRedirect.Toml
