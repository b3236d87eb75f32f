import FirmwareRedirect.Proofs.History.Lifetime
import FirmwareRedirect.Proofs.History.PruneTwice
/-!
# A run of the sweep's sleeps is a run of its ticks

The sweep is run by letting time pass: a sleep prunes once when a tick falls due in it, against
the wall clock it is given. On a wall clock that keeps pace with the sweep, each tick prunes at
the time it falls due, so the ticks of one sleep prune at rising times; and a prune at a later
time drops all that a prune at an earlier one does. So one prune at the last tick of a sleep
stands for all its ticks, and a run of sleeps, with requests logged between them at the time
they arrive and each sleep given the time of its last tick, leaves the store that the timeline of
the same events leaves: the timeline on which the lifetime of an entry is proved.

Main statements: `Sweep.sleep_eq_run_ticks`, for one sleep, and
`Sweep.sleepRun_eq_run_timeline`, for a whole run.
-/

namespace FirmwareRedirect

namespace LogStore

/-- Two prunes with one age, the second at a time no earlier and representable: the second alone
leaves the same store. -/
theorem pruneAt_ofNanos_pruneAt_ofNanos (store : LogStore) (age : Age) {u₁ u₂ : Int}
    (hle : u₁ ≤ u₂) (hu₂ : Instant.inRange (u₂ / nanosPerSecond) = true) :
    ((store.pruneAt age (Instant.ofNanos u₁)).1.pruneAt age (Instant.ofNanos u₂)).1 =
      (store.pruneAt age (Instant.ofNanos u₂)).1 := by
  cases h₁ : (Instant.ofNanos u₁).minus? age with
  | none => simp [pruneAt, h₁]
  | some θ₁ =>
    have hθ₁ := h₁
    rw [Instant.minus?_ofNanos u₁ age] at hθ₁
    split at hθ₁
    · rename_i hok
      cases hθ₁
      -- the later threshold lies between the earlier one and the later time, so it exists
      have hrange : Instant.inRange ((u₂ - age.toNanos) / nanosPerSecond) = true :=
        Instant.inRange_between hok.2 hu₂ (by omega) (by omega)
      have h₂ : (Instant.ofNanos u₂).minus? age = some (Instant.ofNanos (u₂ - age.toNanos)) := by
        rw [Instant.minus?_ofNanos u₂ age, if_pos ⟨hok.1, hrange⟩]
      have htwice := (Prod.ext_iff.1 (pruneAt_pruneAt store h₁ h₂)).1
      split at htwice
      · -- thresholds in that order come from one and the same time
        rename_i hback
        obtain rfl : u₁ = u₂ := by
          have := Instant.ofNanos_le_ofNanos.1 hback
          omega
        exact htwice
      · exact htwice
    · cases hθ₁

/-- Prunes at the times of ticks no later than a last one, then a prune at the last one: the
last alone leaves the same store. -/
theorem pruneAt_run_prunes (store : LogStore) (age : Age) (start : Int) (ts : List Nat) {v : Nat}
    (hle : ∀ t ∈ ts, t ≤ v) (hv : Instant.inRange ((start + v) / nanosPerSecond) = true) :
    ((store.run (ts.map fun t : Nat => .prune age (Instant.ofNanos (start + t)))).pruneAt age
        (Instant.ofNanos (start + v))).1 =
      (store.pruneAt age (Instant.ofNanos (start + v))).1 := by
  induction ts generalizing store with
  | nil => rfl
  | cons t ts ih =>
    simp only [List.map_cons, run_cons, StoreOp.apply]
    rw [ih _ fun t' ht' => hle t' (List.mem_cons_of_mem t ht')]
    exact pruneAt_ofNanos_pruneAt_ofNanos store age (by have := hle t List.mem_cons_self; omega) hv

end LogStore

namespace Sweep

/-- When ticks fall due, they are the earlier ones and then the last tick. -/
theorem ticksUntil_eq_concat (s : Sweep) {later : Nat} (h : 0 < s.dueBetween later) :
    s.ticksUntil later =
      (List.range (s.dueBetween later - 1)).map
          (fun i => (s.elapsed / s.period + 1 + i) * s.period) ++
        [s.lastTick later] := by
  obtain ⟨k, hk⟩ : ∃ k, s.dueBetween later = k + 1 := ⟨_, (Nat.succ_pred_eq_of_pos h).symm⟩
  rw [ticksUntil, hk, List.range_succ, List.map_append, List.map_singleton, Nat.add_sub_cancel]
  congr 2
  simp only [lastTick]
  rw [dueBetween] at hk
  congr 1
  omega

/-- A sleep of a running sweep, given the time of its last tick on a wall clock that keeps pace,
leaves the store that the prunes of all the ticks falling due in it, each at its own time,
leave. -/
theorem sleep_eq_run_ticks (s : Sweep) (hrun : s.running = true) (store : LogStore) (ms : Nat)
    (start : Int)
    (hlast : Instant.inRange ((start + s.lastTick (s.elapsed + ms * nanosPerMilli)) /
      nanosPerSecond) = true) :
    (s.sleep store ms (Instant.ofNanos (start + s.lastTick (s.elapsed + ms * nanosPerMilli)))).2 =
      store.run ((s.ticksUntil (s.elapsed + ms * nanosPerMilli)).map
        fun t : Nat => .prune s.retention (Instant.ofNanos (start + t))) := by
  simp only [sleep, hrun, Bool.true_and]
  by_cases hdue : 0 < s.dueBetween (s.elapsed + ms * nanosPerMilli)
  · rw [if_pos (by simpa using hdue), ticksUntil_eq_concat s hdue, List.map_append,
      LogStore.run_append, List.map_singleton, LogStore.run_cons, LogStore.run_nil, StoreOp.apply]
    -- every earlier tick comes before the last one
    refine (LogStore.pruneAt_run_prunes store _ start _ (fun t ht => ?_) hlast).symm
    obtain ⟨i, hi, rfl⟩ := List.mem_map.1 ht
    rw [List.mem_range] at hi
    simp only [lastTick]
    apply Nat.mul_le_mul_right
    rw [dueBetween] at hi hdue
    omega
  · have hnone : s.ticksUntil (s.elapsed + ms * nanosPerMilli) = [] := by
      simp [ticksUntil, Nat.eq_zero_of_not_pos hdue]
    rw [if_neg (by simpa using hdue), hnone]
    rfl

end Sweep

/-- What happens between the sweep's sleeps: a request logged at the current time, or a sleep of
some milliseconds. -/
inductive SleepStep where
  | append (client message : String)
  | sleep (ms : Nat)
  deriving Repr, DecidableEq

/-- The event of the timeline that a step is. -/
def SleepStep.toEvent : SleepStep → SweepEvent
  | .append c m => .append c m
  | .sleep ms => .wait (ms * nanosPerMilli)

namespace Sweep

/-- The store after the sweep's steps, on a wall clock that reads `start` as the sweep starts and
keeps pace with it: a request is logged at the current time, and each sleep is given the time of
its last tick. -/
def sleepRun (start : Int) : Sweep → LogStore → List SleepStep → LogStore
  | _, store, [] => store
  | s, store, .append c m :: steps =>
    s.sleepRun start (store.appendAt c m (Instant.ofNanos (start + s.elapsed))) steps
  | s, store, .sleep ms :: steps =>
    let slept := s.sleep store ms (Instant.ofNanos (start + s.lastTick (s.elapsed + ms * nanosPerMilli)))
    slept.1.sleepRun start slept.2 steps

/-- A run of a running sweep's sleeps, with requests between them, leaves the store that the
timeline of the same events leaves, while the wall clock stays representable. -/
theorem sleepRun_eq_run_timeline (s : Sweep) (hrun : s.running = true) (start : Int)
    (store : LogStore) (steps : List SleepStep)
    (hstart : Instant.inRange (start / nanosPerSecond) = true)
    (hend : Instant.inRange ((start + s.elapsed + waited (steps.map SleepStep.toEvent)) /
      nanosPerSecond) = true) :
    s.sleepRun start store steps = store.run (s.timeline start (steps.map SleepStep.toEvent)) := by
  induction steps generalizing s store with
  | nil => rfl
  | cons step steps ih =>
    cases step with
    | append c m =>
      simp only [sleepRun, List.map_cons, SleepStep.toEvent, timeline, LogStore.run_cons,
        StoreOp.apply]
      exact ih s hrun _ (by simpa [SleepStep.toEvent, waited] using hend)
    | sleep ms =>
      have hwaited : waited ((SleepStep.sleep ms :: steps).map SleepStep.toEvent) =
          ms * nanosPerMilli + waited (steps.map SleepStep.toEvent) := by
        simp [SleepStep.toEvent, waited]
      rw [hwaited] at hend
      -- the last tick of the sleep lies between the start and the end
      have hlast : Instant.inRange ((start + s.lastTick (s.elapsed + ms * nanosPerMilli)) /
          nanosPerSecond) = true := by
        have hle : s.lastTick (s.elapsed + ms * nanosPerMilli) ≤ s.elapsed + ms * nanosPerMilli :=
          Nat.div_mul_le_self _ _
        exact Instant.inRange_between hstart hend (by omega) (by omega)
      simp only [sleepRun, List.map_cons, SleepStep.toEvent, timeline, LogStore.run_append]
      rw [← sleep_eq_run_ticks s hrun store ms start hlast]
      exact ih { s with elapsed := s.elapsed + ms * nanosPerMilli } hrun _
        (by simpa [add_assoc] using hend)

end Sweep

end FirmwareRedirect
