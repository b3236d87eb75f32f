import FirmwareRedirect.Yaml.Scanner.State
/-!
# Scanning YAML scalars

Plain and quoted scalars may run over several lines. The line breaks and blanks between two
pieces of text are held back until the next piece is found, and then joined in: one line break
folds to a space, a run of line breaks keeps all but the first, and blanks inside a line are
kept. Blanks at the end of the scalar are dropped.

Block scalars (`|` and `>`) keep their lines as written, below an indentation that is given or
found from the first non-empty line; folded ones join lines that do not start with a blank.
The end of a block scalar is chomped: one final line break is kept unless the header says `-`,
and all of them when it says `+`.
-/

namespace FirmwareRedirect.Yaml

open Scan

/-- A scalar being read: the text so far, and the whitespace waiting to be joined into it. -/
structure Gather where
  text : String
  leadingBreak : String
  trailingBreaks : String
  whitespaces : String
  leadingBlanks : Bool
  deriving Inhabited

/-- Nothing read yet. -/
def Gather.empty : Gather := ⟨"", "", "", "", false⟩

/-- Join the waiting whitespace into the text. After a line break, a first line feed folds to
a space when no further breaks follow, and otherwise gives way to them; blanks are kept. -/
def Gather.join (g : Gather) : Gather :=
  if g.leadingBlanks then
    if g.leadingBreak.startsWith "\n" then
      if g.trailingBreaks.isEmpty then { g with text := g.text.push ' ', leadingBreak := "" }
      else { g with text := g.text ++ g.trailingBreaks, trailingBreaks := "", leadingBreak := "" }
    else
      { g with text := g.text ++ g.leadingBreak ++ g.trailingBreaks, leadingBreak := "",
               trailingBreaks := "" }
  else { g with text := g.text ++ g.whitespaces, whitespaces := "" }

/-- Read blanks and line breaks. Blanks before the first break are kept as whitespace; later
ones are dropped. When `tabLimit` is given, a tab after a break left of that column is an
error. -/
def blanks (tabLimit : Option (Mark × Int)) : Nat → Gather → Scan Gather
  | 0, g => pure g
  | n + 1, g => do
    let c ← cur
    if isBlank c then
      if let some (start, indent) := tabLimit then
        if g.leadingBlanks && ((← mark).column : Int) < indent && c == '\t' then
          fail "while scanning a plain scalar" start "found a tab character that violates indentation"
      if !g.leadingBlanks then
        let ws ← read g.whitespaces
        blanks tabLimit n { g with whitespaces := ws }
      else
        skip
        blanks tabLimit n g
    else if isBreak c then
      if !g.leadingBlanks then
        let lb ← readLine g.leadingBreak
        blanks tabLimit n { g with whitespaces := "", leadingBreak := lb, leadingBlanks := true }
      else
        let tb ← readLine g.trailingBreaks
        blanks tabLimit n { g with trailingBreaks := tb }
    else pure g

/-- The characters that end a plain scalar inside a flow collection. -/
def isFlowIndicator (c : Char) : Bool := c == ',' || c == '[' || c == ']' || c == '{' || c == '}'

/-- Read the non-blank characters of a plain scalar's line, up to `: ` or, in flow context,
a flow indicator. The mark returned is the end of the last character read. -/
def plainChars (start : Mark) : Nat → Gather → Mark → Scan (Gather × Mark)
  | 0, g, e => pure (g, e)
  | n + 1, g, e => do
    let c ← cur
    if isBlankEnd c then return (g, e)
    let c1 ← peekAt 1
    let flow := (← get).flowLevel > 0
    if flow && c == ':' && (c1 == '?' || isFlowIndicator c1) then
      fail "while scanning a plain scalar" start "found unexpected ':'"
    if (c == ':' && isBlankEnd c1) || (flow && isFlowIndicator c) then return (g, e)
    let g := { g.join with leadingBlanks := false }
    let text ← read g.text
    plainChars start n { g with text } (← mark)

/-- Read the lines of a plain scalar. It ends at a comment, a document indicator, a `: `, and,
in block context, at a line indented less than `indent`. -/
def plainLines (start : Mark) (indent : Int) : Nat → Gather → Mark → Scan (Gather × Mark)
  | 0, g, e => pure (g, e)
  | n + 1, g, e => do
    if ← atDocumentIndicator then return (g, e)
    if (← cur) == '#' then return (g, e)
    let (g, e) ← plainChars start (← budget) g e
    let c ← cur
    if !(isBlank c || isBreak c) then return (g, e)
    let g ← blanks (some (start, indent)) (← budget) g
    let s ← get
    if s.flowLevel == 0 && (s.mark.column : Int) < indent then return (g, e)
    plainLines start indent n g e

/-- Scan a plain scalar. A scalar that ends after a line break leaves room for a simple key. -/
def scanPlainScalar : Scan Token := do
  let s ← get
  let start := s.mark
  let (g, e) ← plainLines start (s.indent + 1) (← budget) Gather.empty start
  if g.leadingBlanks then modify fun s => { s with simpleKeyAllowed := true }
  pure ⟨.scalar g.text .plain, start, e⟩

/-- The character a one-letter escape stands for. -/
def simpleEscape : Char → Option Char
  | '0' => some '\x00'
  | 'a' => some '\x07'
  | 'b' => some '\x08'
  | 't' => some '\t'
  | '\t' => some '\t'
  | 'n' => some '\n'
  | 'v' => some '\x0B'
  | 'f' => some '\x0C'
  | 'r' => some '\r'
  | 'e' => some '\x1B'
  | ' ' => some ' '
  | '"' => some '"'
  | '/' => some '/'
  | '\'' => some '\''
  | '\\' => some '\\'
  | 'N' => some '\x85'
  | '_' => some '\xA0'
  | 'L' => some '\u2028'
  | 'P' => some '\u2029'
  | _ => none

/-- The number of hex digits after an escape letter, or zero for none. -/
def hexEscapeLength : Char → Nat
  | 'x' => 2
  | 'u' => 4
  | 'U' => 8
  | _ => 0

/-- The value of the `len` hex digits at the cursor, checked before any is consumed. -/
def hexDigits (start : Mark) (len : Nat) : Nat → Nat → Scan Nat
  | 0, acc => pure acc
  | k + 1, acc => do
    let c ← peekAt (len - (k + 1))
    if !isHexDigit c then
      fail "while parsing a quoted scalar" start "did not find expected hexdecimal number"
    hexDigits start len k (acc * 16 + hexValue c)

/-- Read an escape sequence of a double-quoted scalar onto the text. -/
def escape (start : Mark) (text : String) : Scan String := do
  let e ← peekAt 1
  match simpleEscape e with
  | some c =>
    skipN 2
    pure (text.push c)
  | none =>
    let len := hexEscapeLength e
    if len == 0 then fail "while parsing a quoted scalar" start "found unknown escape character"
    skipN 2
    let v ← hexDigits start len len 0
    if (0xD800 ≤ v && v ≤ 0xDFFF) || v > 0x10FFFF then
      fail "while parsing a quoted scalar" start "found invalid Unicode character escape code"
    skipN len
    pure (text.push (Char.ofNat v))

/-- Read the non-blank characters of a quoted scalar's line, up to the closing quote. An
escaped line break ends the line and joins the next one without a space. -/
def quotedChars (single : Bool) (start : Mark) : Nat → Gather → Scan Gather
  | 0, g => pure g
  | n + 1, g => do
    let c ← cur
    if isBlankEnd c then return g
    let c1 ← peekAt 1
    if single && c == '\'' && c1 == '\'' then
      skipN 2
      quotedChars single start n { g with text := g.text.push '\'' }
    else if c == (if single then '\'' else '"') then return g
    else if !single && c == '\\' && isBreak c1 then
      skip
      skipLine
      return { g with leadingBlanks := true }
    else if !single && c == '\\' then
      let text ← escape start g.text
      quotedChars single start n { g with text }
    else
      let text ← read g.text
      quotedChars single start n { g with text }

/-- Read the lines of a quoted scalar up to its closing quote. -/
def quotedLines (single : Bool) (start : Mark) : Nat → Gather → Scan Gather
  | 0, g => pure g
  | n + 1, g => do
    if ← atDocumentIndicator then
      fail "while scanning a quoted scalar" start "found unexpected document indicator"
    if isEnd (← cur) then
      fail "while scanning a quoted scalar" start "found unexpected end of stream"
    let g ← quotedChars single start (← budget) { g with leadingBlanks := false }
    if (← cur) == (if single then '\'' else '"') then return g
    let g ← blanks none (← budget) g
    quotedLines single start n g.join

/-- Scan a single- or double-quoted scalar. -/
def scanQuotedScalar (single : Bool) : Scan Token := do
  let start ← mark
  skip
  let g ← quotedLines single start (← budget) Gather.empty
  skip
  pure ⟨.scalar g.text (if single then .singleQuoted else .doubleQuoted), start, ← mark⟩

/-- Step over spaces left of the block indentation, or all of them when it is not known. -/
def skipIndent (indent : Nat) : Nat → Scan Unit
  | 0 => pure ()
  | n + 1 => do
    if (indent == 0 || (← mark).column < indent) && (← cur) == ' ' then
      skip
      skipIndent indent n

/-- Read the empty lines before a line of a block scalar, collecting their breaks. When the
indentation is not known yet (zero), it becomes the deepest column reached, but at least one
more than the enclosing block's and at least one. -/
def blockBreaks (start : Mark) (outer : Int) (indent : Nat) :
    Nat → Nat → String → Mark → Scan (Nat × String × Mark)
  | 0, _, breaks, e => pure (indent, breaks, e)
  | n + 1, maxIndent, breaks, e => do
    skipIndent indent (← budget)
    let col := (← mark).column
    let maxIndent := max maxIndent col
    let c ← cur
    if (indent == 0 || col < indent) && c == '\t' then
      fail "while scanning a block scalar" start
        "found a tab character where an indentation space is expected"
    if !isBreak c then
      let found := if indent == 0 then max (max maxIndent (outer + 1).toNat) 1 else indent
      return (found, breaks, e)
    let breaks ← readLine breaks
    blockBreaks start outer indent n maxIndent breaks (← mark)

/-- The lines of a block scalar being read. -/
structure BlockText where
  text : String
  leadingBreak : String
  trailingBreaks : String
  leadingBlank : Bool
  stop : Mark

/-- Read the lines of a block scalar at column `indent`. -/
def blockLines (literal : Bool) (start : Mark) (outer : Int) (indent : Nat) :
    Nat → BlockText → Scan BlockText
  | 0, b => pure b
  | n + 1, b => do
    let c ← cur
    if (← mark).column != indent || isEnd c then return b
    let trailingBlank := isBlank c
    let b :=
      if !literal && b.leadingBreak.startsWith "\n" && !b.leadingBlank && !trailingBlank then
        { b with text := if b.trailingBreaks.isEmpty then b.text.push ' ' else b.text,
                 leadingBreak := "" }
      else { b with text := b.text ++ b.leadingBreak, leadingBreak := "" }
    let b := { b with text := b.text ++ b.trailingBreaks, trailingBreaks := "",
                      leadingBlank := isBlank c }
    let text ← readWhile (fun c => !isBreakEnd c) b.text (← budget)
    let lb ← readLine ""
    let (_, tb, stop) ← blockBreaks start outer indent (← budget) 0 "" b.stop
    blockLines literal start outer indent n
      { b with text, leadingBreak := lb, trailingBreaks := tb, stop }

/-- Read the header of a block scalar after its `|` or `>`: a chomping indicator (`+` keep,
`-` strip) and an indentation digit, in either order. -/
def blockHeader (start : Mark) : Scan (Int × Nat) := do
  let c ← cur
  if c == '+' || c == '-' then
    let chomping : Int := if c == '+' then 1 else -1
    skip
    let d ← cur
    if d.isDigit then
      if d == '0' then
        fail "while scanning a block scalar" start "found an indentation indicator equal to 0"
      skip
      pure (chomping, d.toNat - '0'.toNat)
    else pure (chomping, 0)
  else if c.isDigit then
    if c == '0' then
      fail "while scanning a block scalar" start "found an indentation indicator equal to 0"
    skip
    let d ← cur
    if d == '+' || d == '-' then
      skip
      pure (if d == '+' then 1 else -1, c.toNat - '0'.toNat)
    else pure (0, c.toNat - '0'.toNat)
  else pure (0, 0)

/-- Scan a literal (`|`) or folded (`>`) block scalar. -/
def scanBlockScalar (literal : Bool) : Scan Token := do
  let start ← mark
  skip
  let (chomping, increment) ← blockHeader start
  skipWhile isBlank (← budget)
  if (← cur) == '#' then skipWhile (fun c => !isBreakEnd c) (← budget)
  if !isBreakEnd (← cur) then
    fail "while scanning a block scalar" start "did not find expected comment or line break"
  if isBreak (← cur) then skipLine
  let e ← mark
  let outer := (← get).indent
  let given := if increment == 0 then 0
    else if outer ≥ 0 then outer.toNat + increment else increment
  let (indent, tb, e) ← blockBreaks start outer given (← budget) 0 "" e
  let b ← blockLines literal start outer indent (← budget) ⟨"", "", tb, false, e⟩
  let text := if chomping != -1 then b.text ++ b.leadingBreak else b.text
  let text := if chomping == 1 then text ++ b.trailingBreaks else text
  pure ⟨.scalar text (if literal then .literal else .folded), start, b.stop⟩

end FirmwareRedirect.Yaml
