import FirmwareRedirect.Toml.Strings
import FirmwareRedirect.Number.DecimalText
/-!
# TOML numbers, booleans and dates

Integers are decimal with an optional sign, or hexadecimal, octal or binary with a prefix; an
underscore may stand between two digits. They must fit in a signed 64-bit word. Floats have a
fraction, an exponent or both, or are `inf` and `nan` with an optional sign; a float that grows
to positive infinity is refused. Dates and times follow RFC 3339, each part optional as TOML
allows; a date's day must exist in its month, February having 29 days in leap years only.
-/

namespace FirmwareRedirect.Toml

open Reader

/-- One decimal digit. -/
def digit : Reader Unit := do let _ ← satisfy isDigit

/-- Digits with single underscores between them, the first digit read by `first`. -/
def digitRun (first : Reader Unit) (isD : UInt8 → Bool) : Reader Unit := do
  first
  let _ ← many (alt [do let _ ← satisfy isD,
                     do byte (ascii '_'); expect "digit" (cut (do let _ ← satisfy isD))])

/-- A decimal integer's text: sign, then `0` or a digit run not starting with `0`. -/
def decInt : Reader String :=
  label "integer" <| recognize do
    let _ ← opt (satisfy fun b => b == ascii '+' || b == ascii '-')
    alt [digitRun (do let _ ← satisfy fun b => 49 ≤ b && b ≤ 57) isDigit, digit]

/-- Digits that may start with `0`. -/
def zeroPrefixableInt : Reader Unit := digitRun digit isDigit

/-- An exponent, `e` then an optional sign and digits. -/
def exponent : Reader Unit := do
  let _ ← satisfy fun b => b == ascii 'e' || b == ascii 'E'
  let _ ← opt (satisfy fun b => b == ascii '+' || b == ascii '-')
  cut zeroPrefixableInt

/-- A fraction, `.` then digits. -/
def fraction : Reader Unit := do
  byte (ascii '.')
  expect "digit" (cut zeroPrefixableInt)

/-- The text of a float with a fraction or an exponent. -/
def floatText : Reader String := recognize do
  let _ ← decInt
  alt [exponent, do fraction; let _ ← opt exponent]

/-- Text without its underscores. -/
def dropUnderscores (s : String) : String := String.ofList (s.toList.filter (· != '_'))

/-- `inf` or `nan` with an optional sign. -/
def specialFloat : Reader Float := do
  let sign ← opt (satisfy fun b => b == ascii '+' || b == ascii '-')
  let neg := sign == some (ascii '-')
  alt [do literal "inf"; return (Number.DecimalValue.infinity neg).toFloat,
       do literal "nan"; return (Number.DecimalValue.nan neg).toFloat]

/-- Whether a float is positive infinity. -/
def isPosInfinity (f : Float) : Bool := f.toBits == 0x7FF0000000000000

/-- A float. -/
def float : Reader Float :=
  label "floating-point number" <| alt [
    andThen floatText (fun s =>
      match Number.readDecimal? (dropUnderscores s) with
      | some v => if isPosInfinity v.toFloat then .error { pos := 0, final := true } else .ok v.toFloat
      | none => .error { pos := 0, final := true }),
    specialFloat]

/-- The text of a signed 64-bit integer read by the usual rules. -/
def readInt64 (s : String) (radix : Nat) : Except String Int :=
  let (neg, body) : Bool × List Char := match s.toList with
    | '-' :: r => (true, r)
    | '+' :: r => (false, r)
    | r => (false, r)
  let v := body.foldl (fun acc c =>
    let d := if c.isDigit then c.toNat - 48 else if c.toNat ≤ 70 then c.toNat - 55 else c.toNat - 87
    acc * radix + d) 0
  if neg then
    if v > Nat.pow 2 63 then .error "number too small to fit in target type" else .ok (-(v : Int))
  else
    if v ≥ Nat.pow 2 63 then .error "number too large to fit in target type" else .ok v

/-- A prefixed integer: the prefix, then digits of the radix. -/
def prefixedInt (pre : String) (isD : UInt8 → Bool) (what : String) : Reader String :=
  label what do
    literal pre
    cut (recognize (digitRun (do let _ ← satisfy isD) isD))

/-- An integer. -/
def integer : Reader Int := do
  let pre ← peek2?
  let radixCase (pre : String) (isD : UInt8 → Bool) (what : String) (radix : Nat) : Reader Int :=
    cut (tryMap (prefixedInt pre isD what) fun s => readInt64 (dropUnderscores s) radix)
  match pre with
  | some (48, 120) => radixCase "0x" isHexDigit "hexadecimal integer" 16
  | some (48, 111) => radixCase "0o" (fun b => 48 ≤ b && b ≤ 55) "octal integer" 8
  | some (48, 98) => radixCase "0b" (fun b => b == 48 || b == 49) "binary integer" 2
  | _ => andThen decInt fun s =>
      match readInt64 (dropUnderscores s) 10 with
      | .ok n => .ok n
      | .error c => .error { pos := 0, cause := some c, final := true }

/-- `true`, once its first letter is seen. -/
def trueLit : Reader Bool := do
  let _ ← lookahead (byte (ascii 't'))
  cut (literal "true")
  return true

/-- `false`, once its first letter is seen. -/
def falseLit : Reader Bool := do
  let _ ← lookahead (byte (ascii 'f'))
  cut (literal "false")
  return false

/-- Between `min` and `max` digits, as a number. -/
def unsignedDigits (min max : Nat) : Reader Nat := do
  let s ← recognize (takeBetween isDigit min max)
  return s.toList.foldl (fun acc c => acc * 10 + (c.toNat - 48)) 0

/-- Two digits in a range. -/
def twoDigitsIn (lo hi : Nat) : Reader Nat :=
  tryMap (unsignedDigits 2 2) fun d => if lo ≤ d ∧ d ≤ hi then .ok d else .error "value is out of range"

/-- Whether a year is a leap year of the Gregorian calendar. -/
def isLeapYear (year : Nat) : Bool :=
  year % 4 == 0 && (year % 100 != 0 || year % 400 == 0)

/-- The number of days in a month of a year. -/
def daysInMonth (year month : Nat) : Nat :=
  match month with
  | 2 => if isLeapYear year then 29 else 28
  | 4 | 6 | 9 | 11 => 30
  | _ => 31

/-- A date, `YYYY-MM-DD`, whose day exists in its month. -/
def fullDate : Reader Unit := do
  let year ← unsignedDigits 4 4
  byte (ascii '-')
  cut do
    let month ← twoDigitsIn 1 12
    byte (ascii '-')
    let _ ← tryMap (twoDigitsIn 1 31) fun day =>
      if day ≤ daysInMonth year month then .ok day else .error "value is out of range"

/-- A fraction of a second. -/
def secondFraction : Reader Unit := do
  byte (ascii '.')
  let _ ← unsignedDigits 1 ((← read).size + 1)

/-- A time, `HH:MM:SS` with an optional fraction. -/
def partialTime : Reader Unit := do
  let _ ← twoDigitsIn 0 23
  byte (ascii ':')
  cut do
    let _ ← twoDigitsIn 0 59
    byte (ascii ':')
    let _ ← twoDigitsIn 0 60
    let _ ← opt secondFraction

/-- A time offset, `Z` or `±HH:MM`. -/
def timeOffset : Reader Unit :=
  label "time offset" <| alt [
    do let _ ← satisfy fun b => b == ascii 'Z' || b == ascii 'z',
    do
      let _ ← verify (do
        let _ ← satisfy fun b => b == ascii '+' || b == ascii '-'
        cut do
          let h ← twoDigitsIn 0 23
          byte (ascii ':')
          let m ← twoDigitsIn 0 59
          return h * 60 + m) (· ≤ 24 * 60)]

/-- A date with an optional time and offset, or a time alone. -/
def dateTime : Reader String :=
  recognize <| alt [
    label "date-time" do
      fullDate
      let _ ← opt do
        let _ ← satisfy fun b => b == ascii 'T' || b == ascii 't' || b == ascii ' '
        partialTime
        let _ ← opt timeOffset,
    label "time" partialTime]

end FirmwareRedirect.Toml
