import FirmwareRedirect.Yaml.Scanner.Scalars
import FirmwareRedirect.Yaml.Scanner.Tags
/-!
# Fetching YAML tokens

Each call of `fetchNextToken` skips blanks and comments, closes the block collections that
the current column leaves, and reads one token, deciding its kind by the first characters.
Indicators also update the simple-key bookkeeping: `[`, `{`, anchors, tags and scalars may
start a simple key; `:` turns the possible key into a `key` token placed before it, opening a
block mapping there when needed.

`fetchMoreTokens` keeps fetching while the queue is empty or its first token might still get a
key token in front of it. The parser takes tokens only through `peekToken` and `skipToken`, so
errors come out in the order a parser meets them.
-/

namespace FirmwareRedirect.Yaml

open Scan

/-- Skip blanks, comments and line breaks up to the next token. A byte order mark at the start
of a line is skipped too. Tabs may separate tokens in flow context, or after an indicator in
block context. -/
def scanToNextToken : Nat → Scan Unit
  | 0 => pure ()
  | n + 1 => do
    if (← mark).column == 0 && (← cur) == '\uFEFF' then skip
    let s ← get
    let tabsOk := s.flowLevel > 0 || !s.simpleKeyAllowed
    skipWhile (fun c => c == ' ' || (tabsOk && c == '\t')) (← budget)
    if (← cur) == '#' then skipWhile (fun c => !isBreakEnd c) (← budget)
    if isBreak (← cur) then
      skipLine
      if (← get).flowLevel == 0 then modify fun s => { s with simpleKeyAllowed := true }
      scanToNextToken n

/-- A one-character token: step over it. -/
def singleToken (kind : TokenKind) : Scan Unit := do
  let start ← mark
  skip
  enqueue ⟨kind, start, ← mark⟩

/-- The start of the stream. -/
def fetchStreamStart : Scan Unit := do
  let m ← mark
  modify fun s => { s with indent := -1, simpleKeys := [⟨false, false, 0, Mark.origin⟩],
                           simpleKeyAllowed := true, streamStartProduced := true }
  enqueue ⟨.streamStart, m, m⟩

/-- The end of the stream, on a line of its own. -/
def fetchStreamEnd : Scan Unit := do
  modify fun s =>
    if s.mark.column != 0 then { s with mark := ⟨s.mark.index, s.mark.line + 1, 0⟩ } else s
  unrollAll
  removeSimpleKey
  modify fun s => { s with simpleKeyAllowed := false }
  let m ← mark
  enqueue ⟨.streamEnd, m, m⟩

/-- A directive line. -/
def fetchDirective : Scan Unit := do
  unrollAll
  removeSimpleKey
  modify fun s => { s with simpleKeyAllowed := false }
  enqueue (← scanDirective)

/-- A `---` or `...` line. -/
def fetchDocumentIndicator (kind : TokenKind) : Scan Unit := do
  unrollAll
  removeSimpleKey
  modify fun s => { s with simpleKeyAllowed := false }
  let start ← mark
  skipN 3
  enqueue ⟨kind, start, ← mark⟩

/-- `[` or `{`. -/
def fetchFlowCollectionStart (kind : TokenKind) : Scan Unit := do
  saveSimpleKey
  increaseFlowLevel
  modify fun s => { s with simpleKeyAllowed := true }
  singleToken kind

/-- `]` or `}`. -/
def fetchFlowCollectionEnd (kind : TokenKind) : Scan Unit := do
  removeSimpleKey
  decreaseFlowLevel
  modify fun s => { s with simpleKeyAllowed := false }
  singleToken kind

/-- `,` in a flow collection. -/
def fetchFlowEntry : Scan Unit := do
  removeSimpleKey
  modify fun s => { s with simpleKeyAllowed := true }
  singleToken .flowEntry

/-- `-` before a sequence entry. -/
def fetchBlockEntry : Scan Unit := do
  let s ← get
  if s.flowLevel == 0 then
    if !s.simpleKeyAllowed then failHere "block sequence entries are not allowed in this context"
    rollIndent s.mark.column none .blockSequenceStart s.mark
  removeSimpleKey
  modify fun s => { s with simpleKeyAllowed := true }
  singleToken .blockEntry

/-- `?` before a complex key. -/
def fetchKey : Scan Unit := do
  let s ← get
  if s.flowLevel == 0 then
    if !s.simpleKeyAllowed then failHere "mapping keys are not allowed in this context"
    rollIndent s.mark.column none .blockMappingStart s.mark
  removeSimpleKey
  modify fun s => { s with simpleKeyAllowed := s.flowLevel == 0 }
  singleToken .key

/-- `:` after a key: a possible simple key becomes a key token in front of it. -/
def fetchValue : Scan Unit := do
  let k ← topKey
  if k.possible then
    insertToken k.tokenNumber ⟨.key, k.mark, k.mark⟩
    rollIndent k.mark.column (some k.tokenNumber) .blockMappingStart k.mark
    setTopKey { k with possible := false }
    modify fun s => { s with simpleKeyAllowed := false }
  else
    let s ← get
    if s.flowLevel == 0 then
      if !s.simpleKeyAllowed then failHere "mapping values are not allowed in this context"
      rollIndent s.mark.column none .blockMappingStart s.mark
    modify fun s => { s with simpleKeyAllowed := s.flowLevel == 0 }
  singleToken .value

/-- A token that may start a simple key and may not be followed by one. -/
def fetchKeyStart (scan : Scan Token) : Scan Unit := do
  saveSimpleKey
  modify fun s => { s with simpleKeyAllowed := false }
  enqueue (← scan)

/-- A block scalar. -/
def fetchBlockScalar (literal : Bool) : Scan Unit := do
  removeSimpleKey
  modify fun s => { s with simpleKeyAllowed := true }
  enqueue (← scanBlockScalar literal)

/-- Whether a character may not start a plain scalar on its own. -/
def isIndicator (c : Char) : Bool :=
  "-?:,[]\x7b\x7d#&*!|>'\"%@".contains c || c == '\x60'

/-- Fetch the next token. -/
def fetchNextToken : Scan Unit := do
  if !(← get).streamStartProduced then
    fetchStreamStart
    return
  scanToNextToken (← budget)
  dropStaleKeys
  unrollIndent (← mark).column ((← get).indents.length + 1)
  let c ← cur
  let c1 ← peekAt 1
  let s ← get
  let flow := s.flowLevel > 0
  let col0 := s.mark.column == 0
  if isEnd c then fetchStreamEnd
  else if col0 && c == '%' then fetchDirective
  else if col0 && c == '-' && c1 == '-' && (← peekAt 2) == '-' && isBlankEnd (← peekAt 3) then
    fetchDocumentIndicator .documentStart
  else if col0 && c == '.' && c1 == '.' && (← peekAt 2) == '.' && isBlankEnd (← peekAt 3) then
    fetchDocumentIndicator .documentEnd
  else if c == '[' then fetchFlowCollectionStart .flowSequenceStart
  else if c == '\x7b' then fetchFlowCollectionStart .flowMappingStart
  else if c == ']' then fetchFlowCollectionEnd .flowSequenceEnd
  else if c == '\x7d' then fetchFlowCollectionEnd .flowMappingEnd
  else if c == ',' then fetchFlowEntry
  else if c == '-' && isBlankEnd c1 then fetchBlockEntry
  else if c == '?' && (flow || isBlankEnd c1) then fetchKey
  else if c == ':' && (flow || isBlankEnd c1) then fetchValue
  else if c == '*' then fetchKeyStart (scanAnchor true)
  else if c == '&' then fetchKeyStart (scanAnchor false)
  else if c == '!' then fetchKeyStart scanTag
  else if c == '|' && !flow then fetchBlockScalar true
  else if c == '>' && !flow then fetchBlockScalar false
  else if c == '\'' then fetchKeyStart (scanQuotedScalar true)
  else if c == '"' then fetchKeyStart (scanQuotedScalar false)
  else if !(isBlankEnd c || isIndicator c) || (c == '-' && !isBlank c1) ||
      (!flow && (c == '?' || c == ':') && !isBlankEnd c1) then
    fetchKeyStart scanPlainScalar
  else fail "while scanning for the next token" s.mark "found character that cannot start any token"

/-- Whether the first queued token may still get a key token in front of it. -/
def headMayGrow : Scan Bool := do
  let s ← get
  pure (s.simpleKeys.any fun k => k.possible && k.tokenNumber == s.tokensParsed)

/-- Fetch tokens until the first one in the queue is settled. -/
def fetchMoreTokens : Nat → Scan Unit
  | 0 => pure ()
  | n + 1 => do
    let need ←
      if (← get).queue.isEmpty then pure true
      else do
        dropStaleKeys
        headMayGrow
    if need then
      fetchNextToken
      fetchMoreTokens n
    else modify fun s => { s with tokenAvailable := true }

/-- The next token, fetching as many as needed to settle it. -/
def peekToken : Scan Token := do
  if !(← get).tokenAvailable then fetchMoreTokens (2 * (← budget) + 8)
  match (← get).queue with
  | t :: _ => pure t
  | [] => pure ⟨.streamEnd, (← mark), (← mark)⟩

/-- Take the next token off the queue. -/
def skipToken : Scan Unit :=
  modify fun s =>
    match s.queue with
    | t :: rest =>
      { s with queue := rest, tokenAvailable := false, tokensParsed := s.tokensParsed + 1,
               streamEndProduced := match t.kind with | .streamEnd => true | _ => false }
    | [] => s

end FirmwareRedirect.Yaml
