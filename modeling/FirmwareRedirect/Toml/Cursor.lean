/-!
# Reading TOML bytes

A TOML reader walks the bytes of a document with a cursor. A step either succeeds and moves the
cursor, or fails. A failure records where the cursor stood, the hints gathered on its way out
(what was being read, what was expected there), an optional cause, and whether it is final. A
failure that is not final lets an enclosing choice try its next alternative from where the choice
began; a final one ends the whole read.

The message of a failure names the innermost thing being read (`invalid table header`), then
every expected token in the order the hints were added (`expected `.`, `]``), then the cause.
-/

namespace FirmwareRedirect.Toml

/-- A half-open range of byte offsets. -/
structure Span where
  start : Nat
  stop : Nat
  deriving DecidableEq, Repr, Inhabited

/-- A hint added to a failure on its way out. -/
inductive Hint where
  /-- What was being read, as in `invalid string`. -/
  | label (what : String)
  /-- A token that was expected there, already spelled for the message. -/
  | expected (what : String)
  deriving DecidableEq, Repr

/-- A failed step. -/
structure Failure where
  /-- Where the cursor stood. -/
  pos : Nat
  /-- Hints, innermost first. -/
  hints : List Hint := []
  /-- The cause, for failures raised by a check on what was read. -/
  cause : Option String := none
  /-- A final failure is not retried by an enclosing choice. -/
  final : Bool := false
  deriving Repr, Inhabited

/-- The message of a failure. -/
def Failure.message (f : Failure) : String :=
  let label := f.hints.findSome? fun | .label w => some w | _ => none
  let expected := f.hints.filterMap fun | .expected w => some w | _ => none
  let parts : List String :=
    (match label with | some w => ["invalid " ++ w] | none => []) ++
    (if expected.isEmpty then [] else ["expected " ++ ", ".intercalate expected]) ++
    (match f.cause with | some c => [c] | none => [])
  "\n".intercalate parts

/-- A reading step over a fixed input. -/
abbrev Reader := ReaderT ByteArray (StateT Nat (Except Failure))

namespace Reader

variable {α β : Type}

/-- Fail here, not finally, with no hints. -/
def fail : Reader α := do throw { pos := ← get }

/-- The byte under the cursor, if any. -/
def peek? : Reader (Option UInt8) := do
  let bs ← read
  return bs[← get]?

/-- The two bytes at the cursor, if there are two. -/
def peek2? : Reader (Option (UInt8 × UInt8)) := do
  let bs ← read
  let p ← get
  match bs[p]?, bs[p + 1]? with
  | some a, some b => return some (a, b)
  | _, _ => return none

/-- Whether the cursor is at the end. -/
def atEnd : Reader Bool := do return (← get) ≥ (← read).size

/-- Take one byte. -/
def anyByte : Reader UInt8 := do
  match ← peek? with
  | some b => modify (· + 1); return b
  | none => fail

/-- Take one byte that satisfies `p`. -/
def satisfy (p : UInt8 → Bool) : Reader UInt8 := do
  match ← peek? with
  | some b => if p b then modify (· + 1); return b else fail
  | none => fail

/-- Take the given byte. -/
def byte (b : UInt8) : Reader Unit := do let _ ← satisfy (· == b)

/-- Take the given bytes, all or none. -/
def literal (s : String) : Reader Unit := do
  let bs ← read
  let p ← get
  let ls := s.toUTF8
  if p + ls.size ≤ bs.size && (List.range ls.size).all (fun i => bs[p + i]? == ls[i]?) then
    set (p + ls.size)
  else fail

/-- The end of input. -/
def eof : Reader Unit := do if ← atEnd then pure () else fail

/-- Take bytes while `p` holds, at most `max` of them. -/
def takeUpTo (p : UInt8 → Bool) (max : Nat) : Reader Nat := do
  let bs ← read
  let start ← get
  let rec go : Nat → Nat → Nat
    | 0, i => i
    | fuel + 1, i => match bs[i]? with
      | some b => if p b then go fuel (i + 1) else i
      | none => i
  let stop := go max start
  set stop
  return stop - start

/-- Take bytes while `p` holds, between `min` and `max` of them; fewer fail without moving. -/
def takeBetween (p : UInt8 → Bool) (min max : Nat) : Reader Unit := do
  let start ← get
  let n ← takeUpTo p max
  if n < min then set start; fail

/-- Take bytes while `p` holds, at least `min` of them; fewer fail without moving. -/
def takeWhile (p : UInt8 → Bool) (min : Nat) : Reader Unit := do
  let size := (← read).size
  takeBetween p min size

/-- Make a failure of `r` final. -/
def cut (r : Reader α) : Reader α :=
  tryCatch r fun f => throw { f with final := true }

/-- Add a hint to a failure of `r`. -/
def hint (h : Hint) (r : Reader α) : Reader α :=
  tryCatch r fun f => throw { f with hints := f.hints ++ [h] }

/-- Add a label hint. -/
def label (w : String) (r : Reader α) : Reader α := hint (.label w) r

/-- Add an expected-token hint. -/
def expect (w : String) (r : Reader α) : Reader α := hint (.expected w) r

/-- Run `r`; when it fails, not finally, go back and give `none`. -/
def opt (r : Reader α) : Reader (Option α) := do
  let start ← get
  tryCatch (some <$> r) fun f =>
    if f.final then throw f else do set start; return none

/-- Try each alternative from the same place; the first success wins, a final failure stops,
and when all fail the last failure is reported. -/
def alt : List (Reader α) → Reader α
  | [] => fail
  | [r] => r
  | r :: rs => do
    let start ← get
    tryCatch r fun f =>
      if f.final then throw f else do set start; alt rs

/-- Run `r` and check its result with `f`; a rejected result fails at the start, not finally,
with the cause `f` gives. -/
def tryMap (r : Reader α) (f : α → Except String β) : Reader β := do
  let start ← get
  let a ← r
  match f a with
  | .ok b => return b
  | .error c => throw { pos := start, cause := some c }

/-- Run `r` and check its result with `p`; a rejected result fails at the start. -/
def verify (r : Reader α) (p : α → Bool) : Reader α := do
  let start ← get
  let a ← r
  if p a then return a else throw { pos := start }

/-- Run `r` and give its result with the span it covered. -/
def withSpan (r : Reader α) : Reader (α × Span) := do
  let start ← get
  let a ← r
  return (a, ⟨start, ← get⟩)

/-- Run `r` and give the bytes it covered, as text. -/
def recognize (r : Reader α) : Reader String := do
  let start ← get
  let _ ← r
  let stop ← get
  let bs ← read
  return (String.fromUTF8? (bs.extract start stop)).getD ""

/-- Run `r` without moving the cursor. -/
def lookahead (r : Reader α) : Reader α := do
  let start ← get
  let a ← r
  set start
  return a

/-- Run `r` over the bytes that `outer` covers; a failure of `r` is reported at the start. -/
def andThen (outer : Reader String) (r : String → Except Failure β) : Reader β := do
  let start ← get
  let s ← outer
  match r s with
  | .ok b => return b
  | .error f => throw { f with pos := start }

end Reader

/-- How an expected character is spelled in a message. -/
def expectedChar (c : Char) : String :=
  if c = '\n' then "newline" else "`" ++ c.toString ++ "`"

/-- A decimal digit. -/
def isDigit (b : UInt8) : Bool := 48 ≤ b && b ≤ 57

/-- A hexadecimal digit. -/
def isHexDigit (b : UInt8) : Bool := isDigit b || (65 ≤ b && b ≤ 70) || (97 ≤ b && b ≤ 102)

/-- A space or a tab. -/
def isBlank (b : UInt8) : Bool := b == 32 || b == 9

/-- A byte of a multi-byte character. -/
def isNonAscii (b : UInt8) : Bool := 0x80 ≤ b

end FirmwareRedirect.Toml
