/-!
# Instants and ages

An instant is a count of seconds since the Unix epoch and a count of nanoseconds into that
second. The nanoseconds may reach past a billion only in the last second of a minute: that is a
leap second, which sorts after the rest of its minute and before the next one. Instants are
only representable from the first day of the year -262143 to the last day of the year 262142.

An age is a whole number of seconds and nanoseconds below a billion. Subtracting an age from an instant gives
the instant that many seconds earlier; it fails when the age is beyond the range of signed
millisecond counts or the result falls outside the representable days.
-/

namespace FirmwareRedirect

/-- Nanoseconds in a second. -/
def nanosPerSecond : Nat := 1000000000

/-- Seconds in a day. -/
def secondsPerDay : Int := 86400

/-- The first representable second: the start of the year -262143. -/
def firstSecond : Int := -8334601228800

/-- The last representable second: the end of the year 262142. -/
def lastSecond : Int := 8210266876799

/-- A point in time. -/
structure Instant where
  /-- Whole seconds since the Unix epoch. -/
  secs : Int
  /-- Nanoseconds into the second; a billion or more in a leap second. -/
  nanos : Nat
  deriving Repr, Inhabited, DecidableEq

namespace Instant

/-- Whether a count of seconds lies within the representable days. -/
def inRange (secs : Int) : Bool := firstSecond ≤ secs && secs ≤ lastSecond

/-- The instant of a Unix time, when it is representable: nanoseconds below two billion, and
a billion or more only in the last second of a minute. -/
def ofUnix? (secs : Int) (nanos : Nat) : Option Instant :=
  if inRange secs && nanos < 2 * nanosPerSecond &&
      (nanos < nanosPerSecond || secs % 60 == 59) then some ⟨secs, nanos⟩
  else none

/-- Strict order: by second, then by nanosecond. -/
def lt (a b : Instant) : Bool := a.secs < b.secs || (a.secs == b.secs && a.nanos < b.nanos)

/-- Order: by second, then by nanosecond. -/
def le (a b : Instant) : Bool := !lt b a

theorem lt_eq_true {a b : Instant} :
    a.lt b = true ↔ a.secs < b.secs ∨ a.secs = b.secs ∧ a.nanos < b.nanos := by
  simp [lt]

theorem le_eq_true {a b : Instant} :
    a.le b = true ↔ a.secs < b.secs ∨ a.secs = b.secs ∧ a.nanos ≤ b.nanos := by
  simp only [le, lt, Bool.not_eq_true', Bool.or_eq_false_iff, decide_eq_false_iff_not,
    Bool.and_eq_false_iff, beq_eq_false_iff_ne]
  omega

/-- An instant is not at or before `b` exactly when it is after it. -/
theorem le_eq_false {a b : Instant} : a.le b = false ↔ b.lt a = true := by
  simp [le]

theorem lt_of_lt_of_le {a b c : Instant} (hab : a.lt b = true) (hbc : b.le c = true) :
    a.lt c = true := by
  rw [lt_eq_true] at *
  rw [le_eq_true] at hbc
  omega

end Instant

/-- A length of time, made as a duration is made from a count of seconds and a count of
nanoseconds: nanoseconds of a billion or more carry into the seconds. -/
structure Age where
  /-- The count of seconds it is made from. -/
  givenSecs : Nat
  /-- The count of nanoseconds it is made from. -/
  givenNanos : Nat
  deriving Repr, Inhabited, DecidableEq

namespace Age

/-- The whole seconds of an age. -/
def secs (a : Age) : Nat := a.givenSecs + a.givenNanos / nanosPerSecond

/-- The nanoseconds of an age past its whole seconds. -/
def nanos (a : Age) : Nat := a.givenNanos % nanosPerSecond

/-- The nanoseconds of an age are below a second. -/
theorem nanos_lt (a : Age) : a.nanos < nanosPerSecond := Nat.mod_lt _ (by decide)

end Age

/-- The largest age that counts of milliseconds can hold: its seconds. -/
def maxAgeSecs : Nat := 9223372036854775

/-- The largest age that counts of milliseconds can hold: the nanoseconds of its last second. -/
def maxAgeNanos : Nat := 807000000

/-- Whether an age fits in a signed count of milliseconds. -/
def Age.fits (a : Age) : Bool :=
  a.secs < maxAgeSecs || (a.secs == maxAgeSecs && a.nanos ≤ maxAgeNanos)

/-- The instant an age before `now`, when the age fits and the result is representable. An age
under a second stays inside a leap second; a longer one is counted back from the start of the
second after it. -/
def Instant.minus? (now : Instant) (age : Age) : Option Instant :=
  if !age.fits then none
  else if now.nanos ≥ nanosPerSecond && age.secs == 0 then
    some ⟨now.secs, now.nanos - age.nanos⟩
  else
    let (s, f) : Int × Int :=
      if now.nanos ≥ nanosPerSecond then (now.secs + 1, (now.nanos : Int) - nanosPerSecond)
      else (now.secs, now.nanos)
    let secs := s - age.secs
    let frac := f - age.nanos
    let (secs, frac) := if frac < 0 then (secs - 1, frac + nanosPerSecond) else (secs, frac)
    if Instant.inRange secs then some ⟨secs, frac.toNat⟩ else none

/-- The year, month and day of a day count since the Unix epoch, in the proleptic Gregorian
calendar. -/
def civilDate (days : Int) : Int × Nat × Nat :=
  let z := days + 719468
  let era := z / 146097
  let doe := z - era * 146097
  let yoe := (doe - doe / 1460 + doe / 36524 - doe / 146096) / 365
  let doy := doe - (365 * yoe + yoe / 4 - yoe / 100)
  let mp := (5 * doy + 2) / 153
  let d := doy - (153 * mp + 2) / 5 + 1
  let m := if mp < 10 then mp + 3 else mp - 9
  (yoe + era * 400 + (if m ≤ 2 then 1 else 0), m.toNat, d.toNat)

/-- The English abbreviation of a month, from 1. -/
def monthName (m : Nat) : String :=
  (["Jan", "Feb", "Mar", "Apr", "May", "Jun", "Jul", "Aug", "Sep", "Oct", "Nov", "Dec"][m - 1]?).getD ""

/-- A number in two places, padded with `pad`. -/
def twoPlaces (pad : Char) (n : Nat) : String :=
  if n < 10 then String.singleton pad ++ toString n else toString n

end FirmwareRedirect
