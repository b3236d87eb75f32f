import FirmwareRedirect.Yaml.Scanner.Fetch
/-!
# Parsing YAML into events

The parser reads tokens and gives one event at a time: the stream and each document start
and end, scalars, aliases, and the starts and ends of sequences and mappings. It is a state
machine with a stack of states to return to, one per open collection, and a stack of the marks
where those collections began, for messages.

A missing value, key or document body is an empty plain scalar. A block mapping's value may be
a sequence whose `-` entries stand at the mapping's own indentation.
-/

namespace FirmwareRedirect.Yaml

/-- The states of the parser. -/
inductive ParseState where
  | streamStart
  | implicitDocumentStart
  | documentStart
  | documentContent
  | documentEnd
  | blockNode
  | blockNodeOrIndentlessSequence
  | flowNode
  | blockSequenceFirstEntry
  | blockSequenceEntry
  | indentlessSequenceEntry
  | blockMappingFirstKey
  | blockMappingKey
  | blockMappingValue
  | flowSequenceFirstEntry
  | flowSequenceEntry
  | flowSequenceEntryMappingKey
  | flowSequenceEntryMappingValue
  | flowSequenceEntryMappingEnd
  | flowMappingFirstKey
  | flowMappingKey
  | flowMappingValue
  | flowMappingEmptyValue
  | finished
  deriving Repr, Inhabited, DecidableEq

/-- A tag, as the bytes of its full name. -/
abbrev Tag := List UInt8

/-- The kinds of event. -/
inductive EventKind where
  | streamStart
  | streamEnd
  | documentStart
  | documentEnd
  | alias (name : String)
  | scalar (anchor : Option String) (tag : Option Tag) (value : String) (style : ScalarStyle)
  | sequenceStart (anchor : Option String) (tag : Option Tag)
  | sequenceEnd
  | mappingStart (anchor : Option String) (tag : Option Tag)
  | mappingEnd
  deriving Repr, Inhabited

/-- An event and where it starts. -/
structure Event where
  kind : EventKind
  start : Mark
  deriving Repr, Inhabited

/-- The state of the parser. -/
structure Parser where
  scanner : Scanner
  state : ParseState
  states : List ParseState
  marks : List Mark
  /-- The tag handles of the current document and their prefixes. -/
  tagDirectives : List (Tag × Tag)
  deriving Inhabited

/-- A parser at the start of a text. -/
def Parser.start (input : Array Char) : Parser := ⟨Scanner.start input, .streamStart, [], [], []⟩

/-- Parsing steps. -/
abbrev Parse := StateT Parser (Except YamlError)

namespace Parse

/-- Run a scanning step on the parser's scanner. -/
def scan {α : Type} (m : Scan α) : Parse α := fun p =>
  match m.run p.scanner with
  | .ok (a, s) => .ok (a, { p with scanner := s })
  | .error e => .error e

/-- The next token. -/
def peek : Parse Token := scan peekToken

/-- Take the next token. -/
def next : Parse Unit := scan skipToken

/-- Go to a state. -/
def goto (s : ParseState) : Parse Unit := modify fun p => { p with state := s }

/-- Remember a state to return to. -/
def push (s : ParseState) : Parse Unit := modify fun p => { p with states := s :: p.states }

/-- Return to the last remembered state. -/
def pop : Parse Unit := modify fun p =>
  match p.states with
  | s :: rest => { p with state := s, states := rest }
  | [] => { p with state := .finished }

/-- Remember where a collection began. -/
def pushMark (m : Mark) : Parse Unit := modify fun p => { p with marks := m :: p.marks }

/-- Forget where the innermost collection began, giving it. -/
def popMark : Parse Mark := do
  let p ← get
  match p.marks with
  | m :: rest =>
    set { p with marks := rest }
    pure m
  | [] => pure Mark.origin

/-- Fail with a problem at a mark. -/
def failAt {α : Type} (problem : String) (m : Mark) : Parse α := throw ⟨problem, m, 0, none⟩

/-- Fail with a problem at a mark, inside a context that began at another. -/
def failIn {α : Type} (context : String) (contextMark : Mark) (problem : String) (m : Mark) :
    Parse α :=
  throw ⟨problem, m, 0, some (context, contextMark)⟩

end Parse

open Parse

/-- An empty plain scalar at a mark. -/
def emptyScalar (m : Mark) : Event := ⟨.scalar none none "" .plain, m⟩

/-- Whether a token is of the given kind, comparing only the constructor. -/
def TokenKind.tagIndex : TokenKind → Nat
  | .streamStart => 0
  | .streamEnd => 1
  | .versionDirective _ _ => 2
  | .tagDirective _ _ => 3
  | .documentStart => 4
  | .documentEnd => 5
  | .blockSequenceStart => 6
  | .blockMappingStart => 7
  | .blockEnd => 8
  | .flowSequenceStart => 9
  | .flowSequenceEnd => 10
  | .flowMappingStart => 11
  | .flowMappingEnd => 12
  | .blockEntry => 13
  | .flowEntry => 14
  | .key => 15
  | .value => 16
  | .alias _ => 17
  | .anchor _ => 18
  | .tag _ _ => 19
  | .scalar _ _ => 20

/-- Whether a token's kind is one of those listed. -/
def Token.isOneOf (t : Token) (kinds : List TokenKind) : Bool :=
  kinds.any fun k => k.tagIndex == t.kind.tagIndex

/-- The byte text of a tag handle or prefix given as a string. -/
def tagOf (s : String) : Tag := s.toUTF8.toList

/-- Add a tag directive to the document; a handle already there is kept when `allowDuplicates`
and an error otherwise. -/
def addTagDirective (handle pfx : Tag) (allowDuplicates : Bool) (m : Mark) : Parse Unit := do
  let p ← get
  if p.tagDirectives.any (·.1 == handle) then
    if allowDuplicates then return
    failAt "found duplicate %TAG directive" m
  set { p with tagDirectives := p.tagDirectives ++ [(handle, pfx)] }

/-- Read the directives before a document, then add the default tag handles `!` and `!!`. -/
def processDirectives : Nat → Bool → Parse Unit
  | 0, _ => pure ()
  | n + 1, sawVersion => do
    let t ← peek
    match t.kind with
    | .versionDirective major minor =>
      if sawVersion then failAt "found duplicate %YAML directive" t.start
      if major != 1 || (minor != 1 && minor != 2) then
        failAt "found incompatible YAML document" t.start
      next
      processDirectives n true
    | .tagDirective handle pfx =>
      addTagDirective handle pfx false t.start
      next
      processDirectives n sawVersion
    | _ =>
      addTagDirective (tagOf "!") (tagOf "!") true t.start
      addTagDirective (tagOf "!!") (tagOf "tag:yaml.org,2002:") true t.start

/-- Step over `...` lines between documents. -/
def skipDocumentEnds : Nat → Parse Token
  | 0 => peek
  | n + 1 => do
    let t ← peek
    match t.kind with
    | .documentEnd =>
      next
      skipDocumentEnds n
    | _ => pure t

/-- The start of a document, or the end of the stream. -/
def parseDocumentStart (implicit : Bool) : Parse Event := do
  let budget := (← get).scanner.input.size + 2
  let t ← if implicit then peek else skipDocumentEnds budget
  let directiveOrStart := t.isOneOf [.versionDirective 0 0, .tagDirective [] [], .documentStart]
  match t.kind with
  | .streamEnd =>
    goto .finished
    next
    pure ⟨.streamEnd, t.start⟩
  | _ =>
    if implicit && !directiveOrStart then
      processDirectives budget false
      push .documentEnd
      goto .blockNode
      pure ⟨.documentStart, t.start⟩
    else
      processDirectives budget false
      let t' ← peek
      match t'.kind with
      | .documentStart =>
        push .documentEnd
        goto .documentContent
        next
        pure ⟨.documentStart, t.start⟩
      | _ => failAt "did not find expected <document start>" t'.start

/-- The body of an explicit document, which may be empty. -/
def parseDocumentContent (node : Parse Event) : Parse Event := do
  let t ← peek
  if t.isOneOf [.versionDirective 0 0, .tagDirective [] [], .documentStart, .documentEnd,
      .streamEnd] then
    pop
    pure (emptyScalar t.start)
  else node

/-- The end of a document, explicit (`...`) or not. -/
def parseDocumentEnd : Parse Event := do
  let t ← peek
  match t.kind with
  | .documentEnd => next
  | _ => pure ()
  modify fun p => { p with tagDirectives := [] }
  goto .documentStart
  pure ⟨.documentEnd, t.start⟩

/-- A node: an alias, or an optional anchor and tag followed by a scalar or the start of a
collection. A `-` may start a sequence at the same indentation when `indentless`. -/
def parseNode (block indentless : Bool) : Parse Event := do
  let t ← peek
  match t.kind with
  | .alias name =>
    pop
    next
    pure ⟨.alias name, t.start⟩
  | _ =>
    let start := t.start
    let (anchor, tagParts, t) ← match t.kind with
      | .anchor name => do
        next
        let t ← peek
        match t.kind with
        | .tag h s => do
          next
          pure (some name, some (h, s, t.start), ← peek)
        | _ => pure (some name, none, t)
      | .tag h s => do
        next
        let t' ← peek
        match t'.kind with
        | .anchor name => do
          next
          pure (some name, some (h, s, t.start), ← peek)
        | _ => pure (none, some (h, s, t.start), t')
      | _ => pure (none, none, t)
    let tag ← match tagParts with
      | none => pure none
      | some (handle, suffix, tagMark) =>
        if handle.isEmpty then pure (some suffix)
        else match (← get).tagDirectives.find? (·.1 == handle) with
          | some (_, pfx) => pure (some (pfx ++ suffix))
          | none => failIn "while parsing a node" start "found undefined tag handle" tagMark
    match t.kind with
    | .blockEntry =>
      if indentless then
        goto .indentlessSequenceEntry
        pure ⟨.sequenceStart anchor tag, start⟩
      else if anchor.isSome || tag.isSome then
        pop
        pure ⟨.scalar anchor tag "" .plain, start⟩
      else
        failIn (if block then "while parsing a block node" else "while parsing a flow node") start
          "did not find expected node content" t.start
    | .scalar v style =>
      pop
      next
      pure ⟨.scalar anchor tag v style, start⟩
    | .flowSequenceStart =>
      goto .flowSequenceFirstEntry
      pure ⟨.sequenceStart anchor tag, start⟩
    | .flowMappingStart =>
      goto .flowMappingFirstKey
      pure ⟨.mappingStart anchor tag, start⟩
    | .blockSequenceStart =>
      if block then
        goto .blockSequenceFirstEntry
        pure ⟨.sequenceStart anchor tag, start⟩
      else if anchor.isSome || tag.isSome then
        pop
        pure ⟨.scalar anchor tag "" .plain, start⟩
      else
        failIn "while parsing a flow node" start "did not find expected node content" t.start
    | .blockMappingStart =>
      if block then
        goto .blockMappingFirstKey
        pure ⟨.mappingStart anchor tag, start⟩
      else if anchor.isSome || tag.isSome then
        pop
        pure ⟨.scalar anchor tag "" .plain, start⟩
      else
        failIn "while parsing a flow node" start "did not find expected node content" t.start
    | _ =>
      if anchor.isSome || tag.isSome then
        pop
        pure ⟨.scalar anchor tag "" .plain, start⟩
      else
        failIn (if block then "while parsing a block node" else "while parsing a flow node") start
          "did not find expected node content" t.start

/-- The first token of a collection: remember where it began and step over it. -/
def openCollection (first : Bool) : Parse Unit := do
  if first then
    let t ← peek
    pushMark t.start
    next

/-- An entry of a block sequence, or its end. -/
def parseBlockSequenceEntry (first : Bool) : Parse Event := do
  openCollection first
  let t ← peek
  match t.kind with
  | .blockEntry =>
    next
    let t' ← peek
    if t'.isOneOf [.blockEntry, .blockEnd] then
      goto .blockSequenceEntry
      pure (emptyScalar t.stop)
    else
      push .blockSequenceEntry
      parseNode true false
  | .blockEnd =>
    pop
    let _ ← popMark
    next
    pure ⟨.sequenceEnd, t.start⟩
  | _ =>
    let m ← popMark
    failIn "while parsing a block collection" m "did not find expected '-' indicator" t.start

/-- An entry of a sequence written at its mapping's indentation, or its end. -/
def parseIndentlessSequenceEntry : Parse Event := do
  let t ← peek
  match t.kind with
  | .blockEntry =>
    next
    let t' ← peek
    if t'.isOneOf [.blockEntry, .key, .value, .blockEnd] then
      goto .indentlessSequenceEntry
      pure (emptyScalar t.stop)
    else
      push .indentlessSequenceEntry
      parseNode true false
  | _ =>
    pop
    pure ⟨.sequenceEnd, t.start⟩

/-- A key of a block mapping, or its end. -/
def parseBlockMappingKey (first : Bool) : Parse Event := do
  openCollection first
  let t ← peek
  match t.kind with
  | .key =>
    next
    let t' ← peek
    if t'.isOneOf [.key, .value, .blockEnd] then
      goto .blockMappingValue
      pure (emptyScalar t.stop)
    else
      push .blockMappingValue
      parseNode true true
  | .blockEnd =>
    pop
    let _ ← popMark
    next
    pure ⟨.mappingEnd, t.start⟩
  | _ =>
    let m ← popMark
    failIn "while parsing a block mapping" m "did not find expected key" t.start

/-- A value of a block mapping. -/
def parseBlockMappingValue : Parse Event := do
  let t ← peek
  match t.kind with
  | .value =>
    next
    let t' ← peek
    if t'.isOneOf [.key, .value, .blockEnd] then
      goto .blockMappingKey
      pure (emptyScalar t.stop)
    else
      push .blockMappingKey
      parseNode true true
  | _ =>
    goto .blockMappingKey
    pure (emptyScalar t.start)

/-- An entry of a flow sequence, or its end. A `key: value` entry is a one-pair mapping. -/
def parseFlowSequenceEntry (first : Bool) : Parse Event := do
  openCollection first
  let t ← peek
  let t ← match t.kind with
    | .flowSequenceEnd => pure t
    | _ =>
      if first then pure t
      else match t.kind with
        | .flowEntry => do
          next
          peek
        | _ => do
          let m ← popMark
          failIn "while parsing a flow sequence" m "did not find expected ',' or ']'" t.start
  match t.kind with
  | .flowSequenceEnd =>
    pop
    let _ ← popMark
    next
    pure ⟨.sequenceEnd, t.start⟩
  | .key =>
    goto .flowSequenceEntryMappingKey
    next
    pure ⟨.mappingStart none none, t.start⟩
  | _ =>
    push .flowSequenceEntry
    parseNode false false

/-- The key of a one-pair mapping in a flow sequence. -/
def parseFlowSequenceEntryMappingKey : Parse Event := do
  let t ← peek
  if t.isOneOf [.value, .flowEntry, .flowSequenceEnd] then
    goto .flowSequenceEntryMappingValue
    pure (emptyScalar t.start)
  else
    push .flowSequenceEntryMappingValue
    parseNode false false

/-- The value of a one-pair mapping in a flow sequence. -/
def parseFlowSequenceEntryMappingValue : Parse Event := do
  let t ← peek
  match t.kind with
  | .value =>
    next
    let t' ← peek
    if t'.isOneOf [.flowEntry, .flowSequenceEnd] then
      goto .flowSequenceEntryMappingEnd
      pure (emptyScalar t'.start)
    else
      push .flowSequenceEntryMappingEnd
      parseNode false false
  | _ =>
    goto .flowSequenceEntryMappingEnd
    pure (emptyScalar t.start)

/-- The end of a one-pair mapping in a flow sequence. -/
def parseFlowSequenceEntryMappingEnd : Parse Event := do
  let t ← peek
  goto .flowSequenceEntry
  pure ⟨.mappingEnd, t.start⟩

/-- A key of a flow mapping, or its end. -/
def parseFlowMappingKey (first : Bool) : Parse Event := do
  openCollection first
  let t ← peek
  let t ← match t.kind with
    | .flowMappingEnd => pure t
    | _ =>
      if first then pure t
      else match t.kind with
        | .flowEntry => do
          next
          peek
        | _ => do
          let m ← popMark
          failIn "while parsing a flow mapping" m "did not find expected ',' or '\x7d'" t.start
  match t.kind with
  | .flowMappingEnd =>
    pop
    let _ ← popMark
    next
    pure ⟨.mappingEnd, t.start⟩
  | .key =>
    next
    let t' ← peek
    if t'.isOneOf [.value, .flowEntry, .flowMappingEnd] then
      goto .flowMappingValue
      pure (emptyScalar t'.start)
    else
      push .flowMappingValue
      parseNode false false
  | _ =>
    push .flowMappingEmptyValue
    parseNode false false

/-- A value of a flow mapping; `empty` when the key stood alone. -/
def parseFlowMappingValue (empty : Bool) : Parse Event := do
  let t ← peek
  if empty then
    goto .flowMappingKey
    return emptyScalar t.start
  match t.kind with
  | .value =>
    next
    let t' ← peek
    if t'.isOneOf [.flowEntry, .flowMappingEnd] then
      goto .flowMappingKey
      pure (emptyScalar t'.start)
    else
      push .flowMappingKey
      parseNode false false
  | _ =>
    goto .flowMappingKey
    pure (emptyScalar t.start)

/-- The next event. -/
def nextEvent : Parse Event := do
  match (← get).state with
  | .streamStart => do
    let t ← peek
    match t.kind with
    | .streamStart =>
      goto .implicitDocumentStart
      next
      pure ⟨.streamStart, t.start⟩
    | _ => failAt "did not find expected <stream-start>" t.start
  | .implicitDocumentStart => parseDocumentStart true
  | .documentStart => parseDocumentStart false
  | .documentContent => parseDocumentContent (parseNode true false)
  | .documentEnd => parseDocumentEnd
  | .blockNode => parseNode true false
  | .blockNodeOrIndentlessSequence => parseNode true true
  | .flowNode => parseNode false false
  | .blockSequenceFirstEntry => parseBlockSequenceEntry true
  | .blockSequenceEntry => parseBlockSequenceEntry false
  | .indentlessSequenceEntry => parseIndentlessSequenceEntry
  | .blockMappingFirstKey => parseBlockMappingKey true
  | .blockMappingKey => parseBlockMappingKey false
  | .blockMappingValue => parseBlockMappingValue
  | .flowSequenceFirstEntry => parseFlowSequenceEntry true
  | .flowSequenceEntry => parseFlowSequenceEntry false
  | .flowSequenceEntryMappingKey => parseFlowSequenceEntryMappingKey
  | .flowSequenceEntryMappingValue => parseFlowSequenceEntryMappingValue
  | .flowSequenceEntryMappingEnd => parseFlowSequenceEntryMappingEnd
  | .flowMappingFirstKey => parseFlowMappingKey true
  | .flowMappingKey => parseFlowMappingKey false
  | .flowMappingValue => parseFlowMappingValue false
  | .flowMappingEmptyValue => parseFlowMappingValue true
  | .finished => pure ⟨.streamEnd, (← get).scanner.mark⟩

end FirmwareRedirect.Yaml
