import FirmwareRedirect.Yaml.Tokens
/-!
# The state of the YAML scanner

The scanner turns characters into tokens on demand. Besides its position it tracks:

* the tokens found but not yet taken, and how many have been taken;
* the flow level: how many `[` and `{` are open;
* the block indentation and the indentations around it;
* for each flow level, the place where a simple key (`key: value` without `?`) may have
  started. A key is only known to be one when its `:` is found, so the tokens after a possible
  key are held back until it is decided. A possible key in block context is required when it
  stands at the indentation column: then a missing `:` is an error.
-/

namespace FirmwareRedirect.Yaml

/-- A place where a simple key may have started. -/
structure SimpleKey where
  possible : Bool
  required : Bool
  /-- The number of the token the key would be inserted before. -/
  tokenNumber : Nat
  mark : Mark
  deriving Repr, Inhabited

/-- The state of the scanner. -/
structure Scanner where
  input : Array Char
  /-- The number of characters read so far: where the next one is in `input`. -/
  pos : Nat
  mark : Mark
  streamStartProduced : Bool
  streamEndProduced : Bool
  flowLevel : Nat
  queue : List Token
  tokensParsed : Nat
  tokenAvailable : Bool
  indent : Int
  indents : List Int
  simpleKeyAllowed : Bool
  /-- One entry per flow level, innermost first. -/
  simpleKeys : List SimpleKey
  deriving Inhabited

/-- A scanner at the start of a text. -/
def Scanner.start (input : Array Char) : Scanner :=
  ⟨input, 0, Mark.origin, false, false, 0, [], 0, false, -1, [], false, []⟩

/-- Scanning steps: they read and change the scanner, or fail. -/
abbrev Scan := StateT Scanner (Except YamlError)

namespace Scan

/-- The character `k` places ahead, or NUL past the end. -/
def peekAt (k : Nat) : Scan Char := do
  let s ← get
  pure (s.input.getD (s.pos + k) '\x00')

/-- The current character. -/
def cur : Scan Char := peekAt 0

/-- The current position. -/
def mark : Scan Mark := do pure (← get).mark

/-- Step over one character of a line. -/
def skip : Scan Unit :=
  modify fun s =>
    let width := (s.input.getD s.pos '\x00').utf8Size
    { s with pos := s.pos + 1, mark := ⟨s.mark.index + width, s.mark.line, s.mark.column + 1⟩ }

/-- Step over the `n` characters of a line break: `width` bytes in all. -/
def breakLine (n width : Nat) : Scan Unit :=
  modify fun s => { s with pos := s.pos + n, mark := ⟨s.mark.index + width, s.mark.line + 1, 0⟩ }

/-- Step over `n` characters of a line. -/
def skipN : Nat → Scan Unit
  | 0 => pure ()
  | n + 1 => do skip; skipN n

/-- Step over a line break, two characters for CR LF. -/
def skipLine : Scan Unit := do
  let c0 ← peekAt 0
  let c1 ← peekAt 1
  if c0 == '\r' && c1 == '\n' then
    breakLine 2 2
  else if isBreak c0 then
    breakLine 1 c0.utf8Size

/-- Copy the current character onto `acc` and step over it. -/
def read (acc : String) : Scan String := do
  let c ← cur
  skip
  pure (acc.push c)

/-- Copy a line break onto `acc` and step over it. CR LF, CR, LF and next line are copied as
LF; the line and paragraph separators as themselves. -/
def readLine (acc : String) : Scan String := do
  let c0 ← peekAt 0
  let c1 ← peekAt 1
  if c0 == '\r' && c1 == '\n' then
    breakLine 2 2
    pure (acc.push '\n')
  else if c0 == '\r' || c0 == '\n' || c0 == '\x85' then
    breakLine 1 c0.utf8Size
    pure (acc.push '\n')
  else if c0 == '\u2028' || c0 == '\u2029' then
    breakLine 1 c0.utf8Size
    pure (acc.push c0)
  else pure acc

/-- Step over characters while they satisfy `p`, at most `n` of them. -/
def skipWhile (p : Char → Bool) : Nat → Scan Unit
  | 0 => pure ()
  | n + 1 => do
    if p (← cur) then
      skip
      skipWhile p n

/-- Copy characters onto `acc` while they satisfy `p`, at most `n` of them. -/
def readWhile (p : Char → Bool) (acc : String) : Nat → Scan String
  | 0 => pure acc
  | n + 1 => do
    if p (← cur) then
      let acc ← read acc
      readWhile p acc n
    else pure acc

/-- A bound on the number of characters left, for loops that read one each time round. -/
def budget : Scan Nat := do
  let s ← get
  pure (s.input.size - s.pos + 1)

/-- Fail at the current position, naming what was being read and where it began. -/
def fail {α : Type} (context : String) (contextMark : Mark) (problem : String) : Scan α := do
  throw ⟨problem, (← get).mark, 0, some (context, contextMark)⟩

/-- Fail at the current position with no context. -/
def failHere {α : Type} (problem : String) : Scan α := do
  throw ⟨problem, (← get).mark, 0, none⟩

/-- Whether the next three characters are `---` or `...` at the start of a line, followed by
a blank, a break or the end. -/
def atDocumentIndicator : Scan Bool := do
  let s ← get
  let c0 ← peekAt 0
  let c1 ← peekAt 1
  let c2 ← peekAt 2
  let c3 ← peekAt 3
  pure (s.mark.column == 0 &&
    ((c0 == '-' && c1 == '-' && c2 == '-') || (c0 == '.' && c1 == '.' && c2 == '.')) &&
    isBlankEnd c3)

/-- Put a token at the end of the queue. -/
def enqueue (t : Token) : Scan Unit := modify fun s => { s with queue := s.queue ++ [t] }

/-- Put a token into the queue before the token numbered `n`. -/
def insertToken (n : Nat) (t : Token) : Scan Unit :=
  modify fun s => { s with queue := s.queue.insertIdx (n - s.tokensParsed) t }

/-- The possible simple key of the innermost flow level. -/
def topKey : Scan SimpleKey := do
  match (← get).simpleKeys with
  | k :: _ => pure k
  | [] => pure default

/-- Replace the possible simple key of the innermost flow level. -/
def setTopKey (k : SimpleKey) : Scan Unit :=
  modify fun s => match s.simpleKeys with
    | _ :: rest => { s with simpleKeys := k :: rest }
    | [] => s

/-- Drop the possible simple key of the innermost flow level; a required one may not be
dropped. -/
def removeSimpleKey : Scan Unit := do
  let k ← topKey
  if k.possible && k.required then
    fail "while scanning a simple key" k.mark "could not find expected ':'"
  setTopKey { k with possible := false }

/-- Remember that a simple key may start here. -/
def saveSimpleKey : Scan Unit := do
  let s ← get
  let required := s.flowLevel == 0 && s.indent == (s.mark.column : Int)
  if s.simpleKeyAllowed then
    let k : SimpleKey := ⟨true, required, s.tokensParsed + s.queue.length, s.mark⟩
    removeSimpleKey
    setTopKey k

/-- A possible key that can no longer be one: the line has ended or it is over 1024
bytes back. -/
def staleKey (m : Mark) (k : SimpleKey) : Except YamlError SimpleKey :=
  if k.possible && (k.mark.line < m.line || k.mark.index + 1024 < m.index) then
    if k.required then
      .error ⟨"could not find expected ':'", m, 0, some ("while scanning a simple key", k.mark)⟩
    else .ok { k with possible := false }
  else .ok k

/-- Drop the possible keys that went stale, outermost first. -/
def dropStaleKeys : Scan Unit := do
  let s ← get
  match (s.simpleKeys.reverse.mapM (staleKey s.mark)) with
  | .ok ks => set { s with simpleKeys := ks.reverse }
  | .error e => throw e

/-- Open a flow collection. -/
def increaseFlowLevel : Scan Unit :=
  modify fun s => { s with simpleKeys := ⟨false, false, 0, Mark.origin⟩ :: s.simpleKeys,
                           flowLevel := s.flowLevel + 1 }

/-- Close a flow collection. -/
def decreaseFlowLevel : Scan Unit :=
  modify fun s =>
    if s.flowLevel == 0 then s
    else { s with flowLevel := s.flowLevel - 1, simpleKeys := s.simpleKeys.drop 1 }

/-- In block context, open a block collection at `column` when it is deeper than the current
one, with a start token at the end of the queue or before the token numbered `number`. -/
def rollIndent (column : Nat) (number : Option Nat) (kind : TokenKind) (m : Mark) :
    Scan Unit := do
  let s ← get
  if s.flowLevel == 0 && s.indent < (column : Int) then
    set { s with indents := s.indent :: s.indents, indent := column }
    let t : Token := ⟨kind, m, m⟩
    match number with
    | none => enqueue t
    | some n => insertToken n t

/-- In block context, close the block collections deeper than `column`. -/
def unrollIndent (column : Int) : Nat → Scan Unit
  | 0 => pure ()
  | n + 1 => do
    let s ← get
    if s.flowLevel == 0 && s.indent > column then
      enqueue ⟨.blockEnd, s.mark, s.mark⟩
      modify fun s => match s.indents with
        | i :: rest => { s with indent := i, indents := rest }
        | [] => { s with indent := -1 }
      unrollIndent column n

/-- Close every block collection. -/
def unrollAll : Scan Unit := do
  unrollIndent (-1) ((← get).indents.length + 1)

end Scan

end FirmwareRedirect.Yaml
