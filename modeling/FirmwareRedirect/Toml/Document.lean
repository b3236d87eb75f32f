import FirmwareRedirect.Toml.Values
/-!
# TOML documents

A document is read line by line: blank lines, comments, table headers `[a.b]` and `[[a.b]]`, and
key-value pairs. Each key-value pair goes into the table of the last header. A header may
define a table only once, and a key only once per table; such a clash is reported at the start
of the header or pair that causes it.

A failure is reported with the span of the character at the cursor (the one that holds the
cursor's byte, when it stands inside a character), or an empty span at the end of input. A clash
found only when the last table is put in place has no span.
-/

namespace FirmwareRedirect.Toml

open Reader

/-- A failed read of a TOML document: the message, and where in the text it points. -/
structure TomlError where
  message : String
  span : Option Span

/-- A key-value line: the key path, its last key and the value. -/
def keyvalLine (fuel : Nat) : Reader (List Key × Key × Node) := do
  let path ← key
  cut do
    expect "`=`" (expect "`.`" (byte (ascii '=')))
    ws
    let v ← value fuel
    expect "`#`" (expect "newline" lineTrailing)
    match path.reverse with
    | k :: before => return (before.reverse, k, v)
    | [] => fail

/-- Apply a change to the state, reporting a clash at `start`. -/
def applyAt (start : Nat) (r : Except TreeError DocState) : Reader DocState :=
  match r with
  | .ok st => return st
  | .error e => throw { pos := start, cause := some e.message }

/-- A table header line and its effect on the state. -/
def tableHeader (st : DocState) : Reader DocState := do
  let start ← get
  let arrayHeader := (← peek2?) == some (91, 91)
  let (path, span) ← withSpan do
    if arrayHeader then literal "[[" else byte (ascii '[')
    let p ← cut key
    expect "`]`" (expect "`.`" (cut (if arrayHeader then literal "]]" else byte (ascii ']'))))
    return p
  expect "`#`" (expect "newline" (cut lineTrailing))
  applyAt start (do
    let st ← st.finalize
    if arrayHeader then st.startArrayTable path span else st.startTable path span)

/-- The lines of a document from the cursor on. -/
def lines (fuel : Nat) : Nat → DocState → Reader DocState
  | 0, st => return st
  | n + 1, st => do
    let itemStart ← get
    match ← peek? with
    | none => return st
    | some b =>
      let st ←
        if b == ascii '#' then do cut (do comment; lineEnding); pure st
        else if b == ascii '[' then do
          match ← peek2? with
          | some _ => cut (label "table header" (tableHeader st))
          | none => throw { pos := itemStart, hints := [.label "table header"], final := true }
        else if b == 10 || b == 13 then do
          tryCatch newline fun _ => throw { pos := itemStart, final := true }
          pure st
        else cut do
          let start ← get
          let (path, k, v) ← keyvalLine fuel
          applyAt start (st.keyval path k v)
      ws
      lines fuel n st

/-- The number of bytes of a UTF-8 character that starts with byte `b`. -/
def utf8Width (b : UInt8) : Nat :=
  if b < 0x80 then 1 else if b < 0xE0 then 2 else if b < 0xF0 then 3 else 4

/-- Whether byte offset `i` of `bs` starts a character or is the end. -/
def isCharBoundary (bs : ByteArray) (i : Nat) : Bool :=
  match bs[i]? with
  | some b => b < 0x80 || b ≥ 0xC0
  | none => i ≤ bs.size

/-- The last character boundary at or before `i`, looking back over at most `n` bytes. -/
def boundaryAtOrBefore (bs : ByteArray) : Nat → Nat → Nat
  | i, 0 => i
  | i, n + 1 => if isCharBoundary bs i || i = 0 then i else boundaryAtOrBefore bs (i - 1) n

/-- The span of the character holding byte offset `pos`, empty at the end of the text. -/
def charSpanAt (bs : ByteArray) (pos : Nat) : Span :=
  let start := boundaryAtOrBefore bs pos 3
  match bs[start]? with
  | some b => ⟨start, min bs.size (start + utf8Width b)⟩
  | none => ⟨start, start⟩

/-- Read a TOML document into its root table. -/
def readDocument (bs : ByteArray) : Except TomlError Table :=
  let r : Reader DocState := do
    let _ ← opt (literal "\uFEFF")
    ws
    lines (bs.size + 1) (bs.size + 1) DocState.initial
  match (r.run bs).run 0 with
  | .error f =>
    .error ⟨f.message, some (charSpanAt bs f.pos)⟩
  | .ok (st, _) =>
    match st.finalize with
    | .ok st => .ok st.root
    | .error e => .error ⟨e.message, none⟩

/-- The line and column, from zero, of a byte offset: the column counts characters, and one
more at the very end. -/
def translatePosition (input : ByteArray) (index : Nat) : Nat × Nat :=
  if input.size = 0 then (0, index)
  else
    let safe := min index (input.size - 1)
    let offset := index - safe
    let before := (input.extract 0 safe).toList
    let lineStart := match (before.reverse.findIdx? (· == 10)) with
      | some i => safe - i
      | none => 0
    let line := ((input.extract 0 lineStart).toList.filter (· == 10)).length
    let column := match String.fromUTF8? (input.extract lineStart (safe + 1)) with
      | some s => s.length - 1
      | none => safe - lineStart
    (line, column + offset)

/-- The report of a TOML error, with the line it points into and carets under the span. -/
def TomlError.render (raw : String) (e : TomlError) : String :=
  match e.span with
  | none => e.message ++ "\n"
  | some sp =>
    let bytes := raw.toUTF8
    let (line, column) := translatePosition bytes sp.start
    let lineNum := toString (line + 1)
    let gutter := String.ofList (List.replicate (lineNum.length + 1) ' ')
    let content := ((raw.splitOn "\n")[line]?).getD ""
    let width := min (sp.stop - sp.start) (content.utf8ByteSize - column)
    "TOML parse error at line " ++ lineNum ++ ", column " ++ toString (column + 1) ++ "\n" ++
    gutter ++ "|\n" ++
    lineNum ++ " | " ++ content ++ "\n" ++
    gutter ++ "|" ++ String.ofList (List.replicate (column + 1) ' ') ++
      String.ofList (List.replicate (max 1 width) '^') ++ "\n" ++
    e.message ++ "\n"

end FirmwareRedirect.Toml
