import FirmwareRedirect.Text.Unicode.Properties
/-!
# Log levels and filters

Log records have a level (error, warn, info, debug, trace, from least to most verbose) and a
target, the path of the module that wrote them, such as `shelly_update_server::replay`.

A filter is written as directives separated by commas; empty ones are skipped. A directive is
read by a small machine, one character at a time:

* a level alone (`info`, `3`) applies to every target;
* `target`, `target=level`, `target[span{field}]=level` and `[span]=level` name a target prefix,
  a span and the fields a record must carry. Without a level everything they pick passes.

Levels are the names off, error, warn, info, debug and trace in any ASCII case, or the numbers 0
to 5 (off to trace) with leading zeros or a plus sign. Nothing is trimmed from a level: `= warn`
is not a level. A directive must start with an alphanumeric character, `_`, `-`, `:` or `[`.
The machine walks the directive without white space at its ends, but cuts its pieces out of the
directive as written; with white space in front, every piece is shifted left by that many
bytes. A directive that cannot be read is skipped with a warning.

A record passes when the most specific directive that applies to it allows its level. A
directive applies when its target is a prefix of the record's target and the record carries
the fields it names; the longest target is the most specific, then the one naming more fields.
Among directives with the same target and fields the last one counts. Without any directive
nothing passes. A directive that names a span or a field value only applies inside a span, and
the records written here are outside any span, so such a directive is read but never applies.
-/

namespace FirmwareRedirect.Logging

/-- The level of a log record. -/
inductive Level where
  | error
  | warn
  | info
  | debug
  | trace
  deriving DecidableEq, Repr

/-- How verbose a level is: 1 for errors up to 5 for traces. -/
def Level.rank : Level → Nat
  | .error => 1
  | .warn => 2
  | .info => 3
  | .debug => 4
  | .trace => 5

/-- The name of a level as written in log lines. -/
def Level.name : Level → String
  | .error => "ERROR"
  | .warn => "WARN"
  | .info => "INFO"
  | .debug => "DEBUG"
  | .trace => "TRACE"

/-- The fields every record written here carries: its message and nothing else. -/
def recordFields : List String := ["message"]

/-! ## Levels -/

/-- The value of an unsigned decimal number, with an optional plus sign in front. -/
def unsignedValue? (cs : List Char) : Option Nat :=
  let ds := match cs with
    | '+' :: rest => rest
    | _ => cs
  if !ds.isEmpty && ds.all Char.isDigit then (String.ofList ds).toNat? else none

/-- A level as written: a number from 0 to 5, else a name in any ASCII case, and the empty text
for errors. Gives the most verbose rank it allows, 0 for off. -/
def rankOf? (s : String) : Option Nat :=
  match unsignedValue? s.toList with
  | some n => if n ≤ 5 then some n else rankNamed? s
  | none => rankNamed? s
where
  /-- A level name in any ASCII case, and the empty text for errors. -/
  rankNamed? (s : String) : Option Nat :=
    match s.toLower with
    | "" | "error" => some 1
    | "warn" => some 2
    | "info" => some 3
    | "debug" => some 4
    | "trace" => some 5
    | "off" => some 0
    | _ => none

/-! ## Directives -/

/-- Why a directive was skipped. -/
inductive DirectiveError where
  /-- The directive does not have the shape of one. -/
  | malformed
  /-- What follows `=` is not a level. -/
  | badLevel
  deriving DecidableEq, Repr

/-- The warning text for a skipped directive. -/
def DirectiveError.message : DirectiveError → String
  | .malformed => "invalid filter directive"
  | .badLevel => "error parsing level filter: expected one of \"off\", \"error\", \"warn\", " ++
      "\"info\", \"debug\", \"trace\", or a number 0-5"

/-- A field a directive asks for: its name, and the value it must have, if any. -/
structure FieldMatch where
  name : String
  value : Option String
  deriving DecidableEq, Repr

/-- Read a field selector: the name runs up to the first `=`, and the value up to the next. -/
def FieldMatch.read (s : String) : FieldMatch :=
  match s.splitOn "=" with
  | name :: value :: _ => ⟨name, some value⟩
  | _ => ⟨s, none⟩

/-- A directive: an optional target prefix, an optional span name, the fields a record must
carry, and the most verbose rank it allows (0 for off). -/
structure Directive where
  target : Option String := none
  span : Option String := none
  fields : List FieldMatch := []
  rank : Nat := 5
  deriving DecidableEq, Repr

/-- Where the directive machine stands. Each offset is where the piece being read began. -/
inductive Phase where
  /-- Nothing read yet. -/
  | start
  /-- A level or a target is being read. -/
  | levelOrTarget (begin : Nat)
  /-- A span name is being read, after `[`. -/
  | span (begin : Nat)
  /-- A field selector is being read, after `{`. -/
  | field (begin : Nat)
  /-- The field selector is closed; `]` must follow. -/
  | fields
  /-- The selectors are closed; only `=level` may follow. -/
  | target
  /-- A level is being read, after `=`. -/
  | level (begin : Nat)
  deriving DecidableEq, Repr

/-- Whether byte offset `i` of `bs` starts a character or is the end. -/
def isCharStart (bs : ByteArray) (i : Nat) : Bool :=
  match bs[i]? with
  | some b => b < 0x80 || b ≥ 0xC0
  | none => i = bs.size

/-- The bytes from offset `a` up to `b` of a text, when both offsets fall between characters.
A cut inside a character makes the directive unreadable. -/
def cut (bs : ByteArray) (a b : Nat) : Except DirectiveError String :=
  if a ≤ b && isCharStart bs a && isCharStart bs b then
    match String.fromUTF8? (bs.extract a b) with
    | some s => .ok s
    | none => .error .malformed
  else .error .malformed

/-- Whether a character may start a target. -/
def startsTarget (c : Char) : Bool :=
  Text.Unicode.isAlphanumeric c || c = '_' || c = '-' || c = ':'

/-- One step of the machine on the character `c` at byte offset `i`, cutting pieces out of the
bytes `bs`. -/
def step (bs : ByteArray) :
    Phase × Directive → Nat × Char → Except DirectiveError (Phase × Directive)
  | (.start, d), (i, c) =>
    if c = '[' then .ok (.span (i + 1), d)
    else if startsTarget c then .ok (.levelOrTarget i, d)
    else .error .malformed
  | (.levelOrTarget a, d), (i, c) =>
    if c = '=' then do
      let t ← cut bs a i
      pure (.level (i + 1), { d with target := some t })
    else if c = '[' then do
      let t ← cut bs a i
      pure (.span (i + 1), { d with target := some t })
    else .ok (.levelOrTarget a, d)
  | (.span a, d), (i, c) =>
    if c = ']' then do
      let s ← cut bs a i
      pure (.target, { d with span := some s })
    else if c = '\x7b' then do
      let s ← cut bs a i
      pure (.field (i + 1), { d with span := if s.isEmpty then none else some s })
    else .ok (.span a, d)
  | (.field a, d), (i, c) =>
    if c = '\x7d' then do
      let f ← cut bs a i
      if f.isEmpty then .error .malformed
      else pure (.fields, { d with fields := d.fields ++ [FieldMatch.read f] })
    else .ok (.field a, d)
  | (.fields, d), (_, c) => if c = ']' then .ok (.target, d) else .error .malformed
  | (.target, d), (i, c) => if c = '=' then .ok (.level (i + 1), d) else .error .malformed
  | (.level a, d), _ => .ok (.level a, d)

/-- Run the machine over the characters of a directive with their byte offsets. -/
def run (bs : ByteArray) : Phase × Directive → List (Nat × Char) →
    Except DirectiveError (Phase × Directive)
  | q, [] => .ok q
  | q, x :: xs => do run bs (← step bs q x) xs

/-- The directive once every character is read. A level or target read to the end is a level
for every target when it reads as one, and a target otherwise; a level read to the end must be
one, or be empty for every level. -/
def finish (bs : ByteArray) : Phase × Directive → Except DirectiveError Directive
  | (.levelOrTarget a, d) => do
    let s ← cut bs a bs.size
    match rankOf? s with
    | some r => pure { d with target := none, rank := r }
    | none => pure { d with target := some s, rank := 5 }
  | (.level a, d) => do
    let s ← cut bs a bs.size
    if s.isEmpty then pure { d with rank := 5 }
    else match rankOf? s with
      | some r => pure { d with rank := r }
      | none => .error .badLevel
  | (.target, d) => .ok d
  | _ => .error .malformed

/-- The characters of a text with the byte offset of each, counting from `offset`. -/
def withOffsets (offset : Nat) : List Char → List (Nat × Char)
  | [] => []
  | c :: cs => (offset, c) :: withOffsets (offset + c.utf8Size) cs

/-- A text without white space at either end. -/
def trimChars (cs : List Char) : List Char :=
  ((cs.dropWhile Text.isWhiteSpace).reverse.dropWhile Text.isWhiteSpace).reverse

/-- Read one directive. -/
def Directive.parse (s : String) : Except DirectiveError Directive := do
  let bs := s.toUTF8
  let q ← run bs (.start, {}) (withOffsets 0 (trimChars s.toList))
  finish bs q

/-! ## Filters -/

/-- A directive that can apply outside spans: an optional target prefix, the names of the
fields a record must carry, and the most verbose rank it allows (0 for off). -/
structure Rule where
  target : Option String
  fields : List String
  rank : Nat
  deriving DecidableEq, Repr

/-- The rule of a directive that names no span and no field value. -/
def Directive.rule? (d : Directive) : Option Rule :=
  if d.span.isNone && d.fields.all (·.value.isNone) then
    some ⟨d.target, d.fields.map (·.name), d.rank⟩
  else none

/-- A log filter: its rules, most specific first. -/
structure Filter where
  rules : List Rule
  deriving Repr

/-- How specific a rule is: first the length in bytes of its target, below any target none,
then the number of fields it names. -/
def Rule.specificity (r : Rule) : Nat × Nat :=
  (match r.target with
    | some t => t.utf8ByteSize + 1
    | none => 0, r.fields.length)

/-- Whether `a` is at least as specific as `b`. -/
def Rule.atLeastAsSpecific (a b : Rule) : Bool :=
  let (ta, fa) := a.specificity
  let (tb, fb) := b.specificity
  tb < ta || (ta = tb && fb ≤ fa)

/-- Add a rule, replacing one with the same target and fields, and keep the most specific
first. -/
def Filter.add (f : Filter) (r : Rule) : Filter :=
  let others := f.rules.filter fun e => !(e.target = r.target && e.fields = r.fields)
  ⟨(r :: others).mergeSort Rule.atLeastAsSpecific⟩

/-- Read a filter: the filter of the directives that can be read, and the ones skipped with
the reason. -/
def Filter.parse (text : String) : Filter × List (String × DirectiveError) :=
  let parts := (text.splitOn ",").filter (!·.isEmpty)
  parts.foldl (fun (acc : Filter × List (String × DirectiveError)) part =>
    match Directive.parse part with
    | .ok d =>
      match d.rule? with
      | some r => (acc.1.add r, acc.2)
      | none => acc
    | .error e => (acc.1, acc.2 ++ [(part, e)])) (⟨[]⟩, [])

/-- Whether a rule applies to a record of the given target written here. -/
def Rule.appliesTo (r : Rule) (target : String) : Bool :=
  (r.target.all fun t => t.isPrefixOf target) && r.fields.all (recordFields.contains ·)

/-- Whether a record of the given level and target passes the filter. -/
def Filter.allows (f : Filter) (level : Level) (target : String) : Bool :=
  match f.rules.find? (·.appliesTo target) with
  | some r => level.rank ≤ r.rank
  | none => false

end FirmwareRedirect.Logging
