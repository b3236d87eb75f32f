import FirmwareRedirect.Decode.Unexpected
import FirmwareRedirect.Number.Binary64
/-!
# Reading JSON text

A cursor over the bytes of a JSON text, with the lexical pieces a typed reader needs: white
space, literals, strings with their escapes, numbers, and skipping a whole value. Each failure
is reported with the line and column of a byte: the one just read, or, for a failure found by
looking ahead, the one after the cursor.

Numbers are read as a reader of binary64 floats without exact rounding reads them: the decimal
digits that fit in 64 bits, then a scaling by a power of ten, which is exact only for small
exponents. Integers that fit stay integers.
-/

namespace FirmwareRedirect.Json

/-- A failure, with the line (from one) and column (bytes from the line start) it points at. -/
structure JsonError where
  message : String
  line : Nat
  column : Nat
  deriving Repr, Inhabited

/-- "message at line L column C". -/
def JsonError.render (e : JsonError) : String :=
  e.message ++ " at line " ++ toString e.line ++ " column " ++ toString e.column

/-- A reader over the bytes of a text, with the cursor as state. -/
abbrev JsonRead := ReaderT ByteArray (StateT Nat (Except JsonError))

namespace JsonRead

/-- The line and column of a byte offset. -/
def positionOf (bs : ByteArray) (i : Nat) : Nat × Nat :=
  let before := (bs.extract 0 i).toList
  let lineStart := match before.reverse.findIdx? (· == 10) with
    | some k => i - k
    | none => 0
  (1 + (before.filter (· == 10)).length, i - lineStart)

/-- Fail pointing at the byte before the cursor. -/
def fail {α : Type} (message : String) : JsonRead α := do
  let bs ← read
  let (l, c) := positionOf bs (← get)
  throw ⟨message, l, c⟩

/-- Fail pointing at the byte after the cursor. -/
def failAhead {α : Type} (message : String) : JsonRead α := do
  let bs ← read
  let (l, c) := positionOf bs (min bs.size ((← get) + 1))
  throw ⟨message, l, c⟩

/-- The byte at the cursor. -/
def peek? : JsonRead (Option UInt8) := do
  let bs ← read
  let i ← get
  pure (if h : i < bs.size then some bs[i] else none)

/-- Move past one byte. -/
def bump : JsonRead Unit := modify (· + 1)

/-- Take the byte at the cursor. -/
def next? : JsonRead (Option UInt8) := do
  let b ← peek?
  if b.isSome then bump
  pure b

/-- How many bytes are left; a bound for loops that take one each time. -/
def budget : JsonRead Nat := do pure ((← read).size - (← get) + 1)

/-- Skip white space and give the byte after it. -/
def skipSpace : Nat → JsonRead (Option UInt8)
  | 0 => peek?
  | n + 1 => do
    match ← peek? with
    | some 32 | some 10 | some 9 | some 13 =>
      bump
      skipSpace n
    | b => pure b

/-- Skip white space and give the byte after it. -/
def space : JsonRead (Option UInt8) := do skipSpace (← budget)

/-- Check the rest of a literal such as `null`. -/
def ident : List UInt8 → JsonRead Unit
  | [] => pure ()
  | b :: rest => do
    match ← next? with
    | none => fail "EOF while parsing a value"
    | some c =>
      if c != b then fail "expected ident"
      ident rest

/-- The value of four hex digits at the cursor, which moves past them. -/
def hexEscape : JsonRead Nat := do
  let bs ← read
  let i ← get
  if i + 4 > bs.size then
    set bs.size
    fail "EOF while parsing a string"
  set (i + 4)
  let ds := (bs.extract i (i + 4)).toList
  let vals := ds.map fun d =>
    if 48 ≤ d && d ≤ 57 then some (d.toNat - 48)
    else if 97 ≤ d && d ≤ 102 then some (d.toNat - 87)
    else if 65 ≤ d && d ≤ 70 then some (d.toNat - 55)
    else none
  if vals.all Option.isSome then pure (vals.foldl (fun acc v => acc * 16 + v.getD 0) 0)
  else fail "invalid escape"

/-- The byte at the cursor, failing at the end of a string. -/
def peekInString : JsonRead UInt8 := do
  match ← peek? with
  | some b => pure b
  | none => fail "EOF while parsing a string"

/-- The bytes of a code point in UTF-8. -/
def utf8Of (n : Nat) : List UInt8 := (String.singleton (Char.ofNat n)).toUTF8.toList

/-- Read a `\u` escape, pairing surrogates; the cursor is after the `u`. -/
def unicodeEscape (acc : List UInt8) : Nat → JsonRead (List UInt8)
  | 0 => pure acc
  | fuel + 1 => do
    let n ← hexEscape
    if 0xDC00 ≤ n && n ≤ 0xDFFF then fail "lone leading surrogate in hex escape"
    if n < 0xD800 || n > 0xDBFF then return acc ++ utf8Of n
    if (← peekInString) != 92 then
      bump
      fail "unexpected end of hex escape"
    bump
    if (← peekInString) != 117 then
      bump
      fail "unexpected end of hex escape"
    bump
    let n2 ← hexEscape
    if n2 < 0xDC00 || n2 > 0xDFFF then fail "lone leading surrogate in hex escape"
    let _ := fuel
    pure (acc ++ utf8Of ((n - 0xD800) * 1024 + (n2 - 0xDC00) + 0x10000))

/-- Read an escape after its backslash onto the bytes of a string. -/
def escapeSeq (acc : List UInt8) : JsonRead (List UInt8) := do
  match ← next? with
  | none => fail "EOF while parsing a string"
  | some 34 => pure (acc ++ [34])
  | some 92 => pure (acc ++ [92])
  | some 47 => pure (acc ++ [47])
  | some 98 => pure (acc ++ [8])
  | some 102 => pure (acc ++ [12])
  | some 110 => pure (acc ++ [10])
  | some 114 => pure (acc ++ [13])
  | some 116 => pure (acc ++ [9])
  | some 117 => unicodeEscape acc 1
  | some _ => fail "invalid escape"

/-- Read the rest of a string after its opening quote. -/
def stringBody : Nat → List UInt8 → JsonRead String
  | 0, acc => pure (String.fromUTF8? (ByteArray.mk acc.toArray) |>.getD "")
  | n + 1, acc => do
    match ← peek? with
    | none => fail "EOF while parsing a string"
    | some 34 =>
      bump
      pure (String.fromUTF8? (ByteArray.mk acc.toArray) |>.getD "")
    | some 92 =>
      bump
      let acc ← escapeSeq acc
      stringBody n acc
    | some b =>
      bump
      if b < 32 then fail "control character (\\u0000-\\u001F) found while parsing a string"
      stringBody n (acc ++ [b])

/-- Read a string; the cursor is after its opening quote. -/
def string : JsonRead String := do stringBody (← budget) []

/-- Skip an escape after its backslash, checking only its form. -/
def skipEscape : JsonRead Unit := do
  match ← next? with
  | none => fail "EOF while parsing a string"
  | some 34 | some 92 | some 47 | some 98 | some 102 | some 110 | some 114 | some 116 => pure ()
  | some 117 => do let _ ← hexEscape
  | some _ => fail "invalid escape"

/-- Skip the rest of a string after its opening quote. -/
def skipStringBody : Nat → JsonRead Unit
  | 0 => pure ()
  | n + 1 => do
    match ← peek? with
    | none => fail "EOF while parsing a string"
    | some 34 => bump
    | some 92 =>
      bump
      skipEscape
      skipStringBody n
    | some b =>
      if b < 32 then fail "control character (\\u0000-\\u001F) found while parsing a string"
      bump
      skipStringBody n

/-- Whether a byte is a decimal digit. -/
def isDigit (b : UInt8) : Bool := 48 ≤ b && b ≤ 57

/-- Skip digits. -/
def skipDigits : Nat → JsonRead Unit
  | 0 => pure ()
  | n + 1 => do
    match ← peek? with
    | some b => if isDigit b then bump; skipDigits n
    | none => pure ()

/-- Skip an exponent after its `e`. -/
def skipExponent : JsonRead Unit := do
  bump
  match ← peek? with
  | some 43 | some 45 => bump
  | _ => pure ()
  match ← next? with
  | some b => if !isDigit b then fail "invalid number"
  | none => fail "invalid number"
  skipDigits (← budget)

/-- Skip a number after its sign. -/
def skipNumber : JsonRead Unit := do
  match ← next? with
  | some 48 =>
    if let some b ← peek? then
      if isDigit b then failAhead "invalid number"
  | some b =>
    if 49 ≤ b && b ≤ 57 then skipDigits (← budget) else fail "invalid number"
  | none => fail "invalid number"
  match ← peek? with
  | some 46 =>
    bump
    match ← peek? with
    | some b => if !isDigit b then failAhead "invalid number"
    | none => failAhead "invalid number"
    skipDigits (← budget)
    if (← peek?) == some 101 || (← peek?) == some 69 then skipExponent
  | some 101 | some 69 => skipExponent
  | _ => pure ()

/-- A number as read: an unsigned or negative integer, or a float. -/
inductive Number where
  | unsigned (n : Nat)
  | negative (n : Int)
  | float (f : Float)

/-- What a number is, for messages. -/
def Number.unexpected : Number → Decode.Unexpected
  | .unsigned n => .unsigned n
  | .negative n => .signed n
  | .float f => .float f

/-- The largest value of an unsigned 64-bit number. -/
def u64Max : Nat := Nat.pow 2 64 - 1

/-- Whether `a * 10 + d` would pass `limit`. -/
def overflows (a d limit : Nat) : Bool := a ≥ limit / 10 && (a > limit / 10 || d > limit % 10)

/-- `10^k` as a float, rounded to nearest. -/
def pow10 (k : Nat) : Float := Number.floatOfDecimal false 1 k

/-- Scale the digits `significand` by `10^exponent` the way the reader does: one multiply or
divide by a power of ten, in steps of `10^308` for larger exponents. -/
def scaleBy (positive : Bool) (significand : Nat) : Nat → Int → Float → JsonRead Float
  | 0, _, f => pure (if positive then f else -f)
  | n + 1, exponent, f => do
    if exponent.natAbs ≤ 308 then
      if exponent ≥ 0 then
        let g := f * pow10 exponent.toNat
        if g.isInf then fail "number out of range"
        pure (if positive then g else -g)
      else
        let g := f / pow10 exponent.natAbs
        pure (if positive then g else -g)
    else if f == 0 then pure (if positive then f else -f)
    else if exponent ≥ 0 then fail "number out of range"
    else scaleBy positive significand n (exponent + 308) (f / pow10 308)

/-- The float of digits and a decimal exponent. -/
def fromParts (positive : Bool) (significand : Nat) (exponent : Int) : JsonRead Float :=
  scaleBy positive significand (exponent.natAbs / 308 + 2) exponent
    (Number.floatOfDecimal false significand 0)

/-- The largest value of a signed 32-bit number. -/
def i32Max : Nat := Nat.pow 2 31 - 1

/-- Read exponent digits, giving none when they overflow 32 bits. -/
def exponentDigits : Nat → Nat → JsonRead (Option Nat)
  | 0, acc => pure (some acc)
  | n + 1, acc => do
    match ← peek? with
    | some b =>
      if isDigit b then
        bump
        let d := (b - 48).toNat
        if overflows acc d i32Max then return none
        exponentDigits n (acc * 10 + d)
      else pure (some acc)
    | none => pure (some acc)

/-- Read an exponent after its `e`, then scale. -/
def exponentPart (positive : Bool) (significand : Nat) (start : Int) : JsonRead Float := do
  bump
  let positiveExp ← match ← peek? with
    | some 43 => do bump; pure true
    | some 45 => do bump; pure false
    | _ => pure true
  let first ← match ← next? with
    | none => fail "EOF while parsing a value"
    | some b => if isDigit b then pure (b - 48).toNat else fail "invalid number"
  match ← exponentDigits (← budget) first with
  | none =>
    if significand != 0 && positiveExp then fail "number out of range"
    skipDigits (← budget)
    pure (if positive then 0.0 else -0.0)
  | some e =>
    let lim : Int := Nat.pow 2 31 - 1
    let low : Int := -(Nat.pow 2 31)
    let total := if positiveExp then min lim (start + e) else max low (start - e)
    fromParts positive significand total

/-- Read digits after the decimal point. -/
def fractionDigits : Nat → Nat → Int → JsonRead (Nat × Int × Bool)
  | 0, s, e => pure (s, e, false)
  | n + 1, s, e => do
    match ← peek? with
    | some b =>
      if isDigit b then
        let d := (b - 48).toNat
        if overflows s d u64Max then return (s, e, true)
        bump
        fractionDigits n (s * 10 + d) (e - 1)
      else pure (s, e, false)
    | none => pure (s, e, false)

/-- Read the fraction after the point, then the exponent if any. -/
def decimalPart (positive : Bool) (significand : Nat) (before : Int) : JsonRead Float := do
  bump
  let (s, e, overflowed) ← fractionDigits (← budget) significand 0
  if overflowed then
    skipDigits (← budget)
    match ← peek? with
    | some 101 | some 69 => exponentPart positive s (before + e)
    | _ => fromParts positive s (before + e)
  else
    if e == 0 then
      match ← peek? with
      | some _ => failAhead "invalid number"
      | none => failAhead "EOF while parsing a value"
    match ← peek? with
    | some 101 | some 69 => exponentPart positive s (before + e)
    | _ => fromParts positive s (before + e)

/-- Read the digits of an integer too long for 64 bits: the extra digits only scale it. -/
def longInteger (positive : Bool) (significand : Nat) : Nat → Int → JsonRead Float
  | 0, e => fromParts positive significand e
  | n + 1, e => do
    match ← peek? with
    | some 46 => decimalPart positive significand e
    | some 101 | some 69 => exponentPart positive significand e
    | some b =>
      if isDigit b then
        bump
        longInteger positive significand n (e + 1)
      else fromParts positive significand e
    | none => fromParts positive significand e

/-- After the digits of an integer: a fraction, an exponent, or the integer itself. -/
def numberTail (positive : Bool) (significand : Nat) : JsonRead Number := do
  match ← peek? with
  | some 46 => .float <$> decimalPart positive significand 0
  | some 101 | some 69 => .float <$> exponentPart positive significand 0
  | _ =>
    if positive then pure (.unsigned significand)
    else if significand == 0 || significand > Nat.pow 2 63 then
      pure (.float (-(Number.floatOfDecimal false significand 0)))
    else pure (.negative (-(significand : Int)))

/-- Read integer digits after the first. -/
def integerDigits (positive : Bool) : Nat → Nat → JsonRead Number
  | 0, s => numberTail positive s
  | n + 1, s => do
    match ← peek? with
    | some b =>
      if isDigit b then
        let d := (b - 48).toNat
        if overflows s d u64Max then return .float (← longInteger positive s (← budget) 0)
        bump
        integerDigits positive n (s * 10 + d)
      else numberTail positive s
    | none => numberTail positive s

/-- Read a number after its sign. -/
def number (positive : Bool) : JsonRead Number := do
  match ← next? with
  | none => fail "EOF while parsing a value"
  | some 48 =>
    match ← peek? with
    | some b => if isDigit b then failAhead "invalid number" else numberTail positive 0
    | none => numberTail positive 0
  | some b =>
    if 49 ≤ b && b ≤ 57 then integerDigits positive (← budget) (b - 48).toNat
    else fail "invalid number"

/-- The error for a value that is not what was expected, read far enough to describe it. -/
def mismatch (expected : String) : JsonRead JsonError := do
  let found ← match ← peek? with
    | some 110 => do bump; ident [117, 108, 108]; pure Decode.Unexpected.unit
    | some 116 => do bump; ident [114, 117, 101]; pure (Decode.Unexpected.bool true)
    | some 102 => do bump; ident [97, 108, 115, 101]; pure (Decode.Unexpected.bool false)
    | some 45 => do bump; pure (← number false).unexpected
    | some b =>
      if isDigit b then do pure (← number true).unexpected
      else if b == 34 then do bump; pure (Decode.Unexpected.str (← string))
      else if b == 91 then pure Decode.Unexpected.seq
      else if b == 123 then pure Decode.Unexpected.map
      else failAhead "expected value"
    | none => failAhead "expected value"
  let bs ← read
  let (l, c) := positionOf bs (← get)
  pure ⟨Decode.invalidType .compact found expected, l, c⟩

/-- Skip one whole value, however deeply nested. -/
def skipValue : Nat → List UInt8 → Option UInt8 → JsonRead Unit
  | 0, _, _ => pure ()
  | n + 1, stack, enclosing => do
    let frame ← match ← space with
      | none => failAhead "EOF while parsing a value"
      | some 110 => do bump; ident [117, 108, 108]; pure none
      | some 116 => do bump; ident [114, 117, 101]; pure none
      | some 102 => do bump; ident [97, 108, 115, 101]; pure none
      | some 45 => do bump; skipNumber; pure none
      | some 34 => do bump; skipStringBody (← budget); pure none
      | some 91 => do bump; pure (some (91 : UInt8))
      | some 123 => do bump; pure (some (123 : UInt8))
      | some b => if isDigit b then do skipNumber; pure none else failAhead "expected value"
    let stack := match frame with
      | some _ => enclosing.toList ++ stack
      | none => stack
    let (acceptComma, frame?, stack) := match frame with
      | some f => (false, some f, stack)
      | none => match enclosing with
        | some f => (true, some f, stack)
        | none => match stack with
          | f :: rest => (true, some f, rest)
          | [] => (false, none, [])
    match frame? with
    | none => pure ()
    | some frame =>
      match ← closeFrames (← budget) acceptComma frame stack with
      | none => pure ()
      | some (frame, stack) =>
        if frame == 123 then
          match ← space with
          | some 34 => bump
          | some _ => failAhead "key must be a string"
          | none => failAhead "EOF while parsing an object"
          skipStringBody (← budget)
          match ← space with
          | some 58 => bump
          | some _ => failAhead "expected \x60:\x60"
          | none => failAhead "EOF while parsing an object"
        skipValue n stack (some frame)
where
  /-- After a value: close finished collections, or step over the comma before the next
  value, giving the collection it is in. -/
  closeFrames : Nat → Bool → UInt8 → List UInt8 → JsonRead (Option (UInt8 × List UInt8))
    | 0, _, frame, stack => pure (some (frame, stack))
    | n + 1, acceptComma, frame, stack => do
      match ← space with
      | some 44 =>
        if acceptComma then
          bump
          return some (frame, stack)
        else return some (frame, stack)
      | some 93 =>
        if frame == 91 then
          bump
          match stack with
          | f :: rest => closeFrames n true f rest
          | [] => return none
        else if acceptComma then failAhead "expected \x60,\x60 or \x60\x7d\x60"
        else return some (frame, stack)
      | some 125 =>
        if frame == 123 then
          bump
          match stack with
          | f :: rest => closeFrames n true f rest
          | [] => return none
        else if acceptComma then failAhead "expected \x60,\x60 or \x60]\x60"
        else return some (frame, stack)
      | some _ =>
        if acceptComma then
          failAhead (if frame == 91 then "expected \x60,\x60 or \x60]\x60"
            else "expected \x60,\x60 or \x60\x7d\x60")
        else return some (frame, stack)
      | none =>
        failAhead (if frame == 91 then "EOF while parsing a list" else "EOF while parsing an object")

end JsonRead

end FirmwareRedirect.Json
