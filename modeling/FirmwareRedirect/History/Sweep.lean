import FirmwareRedirect.History.Store
/-!
# The retention sweep

A background sweep keeps the history small: every half retention window, but at least every
millisecond, it drops the entries older than the whole window, so an entry lives at most one
and a half windows. The first sweep comes one period after the start. Once cancelled, the sweep
does nothing more.

Time here is the time the service has been running, in nanoseconds; the age of entries is
measured against the wall clock, given at each step. The timer itself counts on the monotonic
clock, whose seconds are a signed 64-bit count: the first deadline is a period after the clock's
reading as the sweep starts, and when that addition overflows the sweep panics before it runs.
-/

namespace FirmwareRedirect

/-- The shortest period between sweeps, in nanoseconds. -/
def minSweepPeriod : Nat := 1000000

/-- Nanoseconds in a millisecond. -/
def nanosPerMilli : Nat := 1000000

/-- The length of an age in nanoseconds. -/
def Age.toNanos (a : Age) : Nat := a.secs * nanosPerSecond + a.nanos

/-- A reading of the monotonic clock: whole seconds, held in a signed 64-bit count, and
nanoseconds into the second. -/
structure MonoInstant where
  secs : Int
  nanos : Nat
  nanos_lt : nanos < nanosPerSecond
  deriving Repr, DecidableEq

/-- The largest count of seconds a monotonic reading holds. -/
def maxMonoSecs : Int := 9223372036854775807

namespace MonoInstant

/-- The reading `n` nanoseconds after the clock's origin. -/
def ofNanos (n : Nat) : MonoInstant :=
  ⟨n / nanosPerSecond, n % nanosPerSecond, Nat.mod_lt _ (by decide)⟩

/-- The nanoseconds of a reading since the clock's origin. -/
def toNanos (t : MonoInstant) : Int := t.secs * nanosPerSecond + t.nanos

/-- The reading `d` nanoseconds later, or none when its seconds overflow: the whole seconds of
the duration are added first, then one more when the nanoseconds carry. -/
def addNanos? (t : MonoInstant) (d : Nat) : Option MonoInstant :=
  let secs := t.secs + (d / nanosPerSecond : Nat)
  let nanos := t.nanos + d % nanosPerSecond
  if maxMonoSecs < secs then none
  else if h : nanos < nanosPerSecond then some ⟨secs, nanos, h⟩
  else if maxMonoSecs < secs + 1 then none
  else
    some ⟨secs + 1, nanos - nanosPerSecond, by
      have := t.nanos_lt
      have : d % nanosPerSecond < nanosPerSecond := Nat.mod_lt _ (by decide)
      omega⟩

end MonoInstant

/-- A sweep over a history: its retention, the time since it started, and whether it still
runs. -/
structure Sweep where
  retention : Age
  elapsed : Nat := 0
  running : Bool := true
  deriving Repr

namespace Sweep

/-- The time between sweeps: half the retention, at least the shortest period. -/
def period (s : Sweep) : Nat := max (s.retention.toNanos / 2) minSweepPeriod

/-- The period is never zero. -/
theorem period_pos (s : Sweep) : 0 < s.period := by
  simp only [period, minSweepPeriod]
  omega

/-- The first deadline of a sweep started at the monotonic reading `now`: one period later, or
none when the clock's seconds overflow, and then the sweep panics before it runs. -/
def firstDeadline? (s : Sweep) (now : MonoInstant) : Option MonoInstant := now.addNanos? s.period

/-- The number of sweeps that fall due when the time moves on to `later`. -/
def dueBetween (s : Sweep) (later : Nat) : Nat := later / s.period - s.elapsed / s.period

/-- Let `ms` milliseconds pass: a running sweep that falls due in that time prunes the history
against the wall clock `now`. Sweeps due at once prune alike, so one prune stands for all. -/
def sleep (s : Sweep) (store : LogStore) (ms : Nat) (now : Instant) : Sweep × LogStore :=
  let later := s.elapsed + ms * nanosPerMilli
  let store :=
    if s.running && s.dueBetween later > 0 then (store.pruneAt s.retention now).1 else store
  ({ s with elapsed := later }, store)

/-- Stop the sweep. -/
def cancel (s : Sweep) : Sweep := { s with running := false }

/-- A cancelled sweep leaves the history alone. -/
theorem sleep_cancel (s : Sweep) (store : LogStore) (ms : Nat) (now : Instant) :
    (s.cancel.sleep store ms now).2 = store := by
  simp [sleep, cancel]

end Sweep

end FirmwareRedirect
