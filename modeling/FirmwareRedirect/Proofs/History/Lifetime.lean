import FirmwareRedirect.Proofs.History.Retention
import FirmwareRedirect.History.Sweep
/-!
# How long an entry lives under the sweep

The sweep fires one period after it starts and then every period, the period being half the
retention but at least a millisecond, and each tick drops the entries older than the retention.
Here the wall clock keeps pace with the sweep's clock, so the tick `k` periods after the start
prunes against the wall clock at that moment, and every request between ticks is logged with the
time it arrives.

A tick never takes an entry younger than the retention: an entry is dropped only once its age
reaches it. And once the first tick has passed, no entry is older than the retention and one
period: the last tick dropped everything that had reached the retention, and at most a period
has gone by since. With a retention of two milliseconds or more the period is half the
retention, so an entry lives less than one and a half retentions.

Main statement: `sweep_lifetime`, for every retention, every history laid down before the sweep
starts and every interleaving of requests and time passing.
-/

namespace FirmwareRedirect

/-! ## Instants as nanoseconds -/

theorem Age.fits_iff {a : Age} :
    a.fits = true ↔ a.secs < maxAgeSecs ∨ a.secs = maxAgeSecs ∧ a.nanos ≤ maxAgeNanos := by
  simp [Age.fits]

namespace Instant

/-- The instant `t` nanoseconds after the Unix epoch. -/
def ofNanos (t : Int) : Instant := ⟨t / nanosPerSecond, (t % nanosPerSecond).toNat⟩

/-- The nanoseconds since the Unix epoch of an instant. -/
def toNanos (t : Instant) : Int := t.secs * nanosPerSecond + t.nanos

theorem inRange_iff {secs : Int} :
    inRange secs = true ↔ firstSecond ≤ secs ∧ secs ≤ lastSecond := by
  simp [inRange]

/-- A time between two representable ones is representable. -/
theorem inRange_between {a b x : Int} (ha : inRange (a / nanosPerSecond) = true)
    (hb : inRange (b / nanosPerSecond) = true) (hax : a ≤ x) (hxb : x ≤ b) :
    inRange (x / nanosPerSecond) = true := by
  rw [inRange_iff] at ha hb ⊢
  simp only [nanosPerSecond] at ha hb ⊢
  omega

@[simp] theorem toNanos_ofNanos (t : Int) : (ofNanos t).toNanos = t := by
  simp only [toNanos, ofNanos, nanosPerSecond]
  omega

theorem ofNanos_lt_ofNanos {a b : Int} : (ofNanos a).lt (ofNanos b) = true ↔ a < b := by
  rw [lt_eq_true]
  simp only [ofNanos, nanosPerSecond]
  omega

theorem ofNanos_le_ofNanos {a b : Int} : (ofNanos a).le (ofNanos b) = true ↔ a ≤ b := by
  rw [le_eq_true]
  simp only [ofNanos, nanosPerSecond]
  omega

/-- An age before an instant that is not a leap second is the age's nanoseconds earlier, when the
age fits and the result is representable. -/
theorem minus?_ofNanos (u : Int) (age : Age) :
    (ofNanos u).minus? age =
      if age.fits ∧ inRange ((u - age.toNanos) / nanosPerSecond) then
        some (ofNanos (u - age.toNanos))
      else none := by
  have hage := age.nanos_lt
  have hnanos : ¬ (ofNanos u).nanos ≥ nanosPerSecond := by
    simp only [ofNanos, nanosPerSecond]; omega
  unfold minus?
  by_cases hfits : age.fits = true
  · simp only [hfits, hnanos, Bool.not_true, Bool.false_eq_true, if_false, true_and, decide_false,
      Bool.false_and]
    -- borrowing a second when the nanoseconds go below zero is the floor division by a second
    by_cases hneg : ((ofNanos u).nanos : Int) - age.nanos < 0
    · have hsecs : (ofNanos u).secs - age.secs - 1 = (u - age.toNanos) / nanosPerSecond := by
        simp only [ofNanos, Age.toNanos, nanosPerSecond] at *; omega
      have hfrac : ((ofNanos u).nanos - age.nanos + nanosPerSecond : Int).toNat =
          (ofNanos (u - age.toNanos)).nanos := by
        simp only [ofNanos, Age.toNanos, nanosPerSecond] at *; omega
      simp only [hneg, if_true, hsecs, hfrac]
      rfl
    · have hsecs : (ofNanos u).secs - age.secs = (u - age.toNanos) / nanosPerSecond := by
        simp only [ofNanos, Age.toNanos, nanosPerSecond] at *; omega
      have hfrac : ((ofNanos u).nanos - age.nanos : Int).toNat =
          (ofNanos (u - age.toNanos)).nanos := by
        simp only [ofNanos, Age.toNanos, nanosPerSecond] at *; omega
      simp only [hneg, if_false, hsecs, hfrac]
      rfl
  · simp [hfits]

/-- When the threshold of a representable instant cannot be computed, it would lie before every
representable instant: the age is too long for any of them, or the result is before the first
day. -/
theorem lt_of_minus?_eq_none {u t : Int} {age : Age}
    (hu : inRange (u / nanosPerSecond) = true) (ht : inRange (t / nanosPerSecond) = true)
    (h : (ofNanos u).minus? age = none) : u - age.toNanos < t := by
  have hage := age.nanos_lt
  rw [minus?_ofNanos u age] at h
  split at h
  · cases h
  · rename_i hnot
    rw [Age.fits_iff, inRange_iff] at hnot
    rw [inRange_iff] at hu ht
    simp only [maxAgeSecs, maxAgeNanos, firstSecond, lastSecond, Age.toNanos,
      nanosPerSecond] at hu ht hnot hage ⊢
    omega

end Instant

/-! ## Which entries survive a run

An entry survives when every prune after it spares it. When every operation after a prune
happens no earlier than the prune, those are all the prunes later than the entry. -/

namespace StoreOp

/-- When an operation happens: an append at its stamp, a prune at its wall clock. -/
def time : StoreOp → Instant
  | .append _ _ stamp => stamp
  | .prune _ now => now

/-- Whether an operation is a prune. -/
def isPrune : StoreOp → Bool
  | .append .. => false
  | .prune .. => true

/-- The entry an operation adds is stamped with the operation's time. -/
theorem stamp_of_entryFor {op : StoreOp} {c : String} {e : LogEntry}
    (h : op.entryFor c = some e) : e.stamp = op.time := by
  cases op with
  | append c' m t =>
    simp only [entryFor] at h
    split at h
    · cases h
      rfl
    · cases h
  | prune => cases h

theorem isPrune_of_entryFor {op : StoreOp} {c : String} {e : LogEntry}
    (h : op.entryFor c = some e) : op.isPrune = false := by
  cases op with
  | append => rfl
  | prune => cases h

/-- A prune spares an entry younger than its age. -/
theorem spares_prune_of_lt {u t : Int} {age : Age}
    (h : u - age.toNanos < t) :
    (prune age (Instant.ofNanos u)).spares (Instant.ofNanos t) = true := by
  simp only [spares]
  rw [Instant.minus?_ofNanos u age]
  by_cases hθ : age.fits = true ∧ Instant.inRange ((u - age.toNanos) / nanosPerSecond) = true
  · rw [if_pos hθ]
    exact Instant.ofNanos_lt_ofNanos.2 h
  · rw [if_neg hθ]

/-- A prune at a representable instant spares an entry from a representable instant only when
the entry is younger than the age. -/
theorem lt_of_spares_prune {u t : Int} {age : Age}
    (hu : Instant.inRange (u / nanosPerSecond) = true)
    (ht : Instant.inRange (t / nanosPerSecond) = true)
    (h : (prune age (Instant.ofNanos u)).spares (Instant.ofNanos t) = true) :
    u - age.toNanos < t := by
  simp only [spares] at h
  cases hθ : (Instant.ofNanos u).minus? age with
  | none => exact Instant.lt_of_minus?_eq_none hu ht hθ
  | some θ =>
    rw [hθ] at h
    rw [Instant.minus?_ofNanos u age] at hθ
    split at hθ
    · cases hθ
      exact Instant.ofNanos_lt_ofNanos.1 h
    · cases hθ

end StoreOp

/-- The operations after a prune happen no earlier than it. -/
def PrunesInOrder (ops : List StoreOp) : Prop :=
  ops.Pairwise fun a b => a.isPrune = true → a.time.toNanos ≤ b.time.toNanos

/-- An entry appended for a client survives the run when every operation of it spares the
entry. -/
theorem mem_survivors_of_spared {c : String} {e : LogEntry} {ops : List StoreOp}
    (he : e ∈ appended c ops) (hspared : ∀ op ∈ ops, op.spares e.stamp = true) :
    e ∈ survivors c ops := by
  induction ops with
  | nil => simp [appended] at he
  | cons op ops ih =>
    have hrest : ∀ op' ∈ ops, op'.spares e.stamp = true := fun op' h =>
      hspared op' (List.mem_cons_of_mem op h)
    rw [appended_cons] at he
    cases hop : op.entryFor c with
    | none =>
      simp only [hop, Option.toList_none, List.nil_append] at he
      simpa [survivors, hop] using ih he hrest
    | some e' =>
      simp only [survivors, hop]
      split
      · -- the entry is the one appended here, or one appended later
        simp only [hop, Option.toList_some, List.singleton_append, List.mem_cons] at he
        rcases he with rfl | he
        · exact List.mem_cons_self
        · exact List.mem_cons_of_mem _ (ih he hrest)
      · rename_i hall
        simp only [hop, Option.toList_some, List.singleton_append, List.mem_cons] at he
        rcases he with rfl | he
        · exact absurd (List.all_eq_true.2 hrest) hall
        · exact ih he hrest

/-- A surviving entry was spared by every prune that came after it, so when prunes are in order,
by every prune later than the entry's stamp. -/
theorem spares_of_mem_survivors {c : String} {e : LogEntry} {ops : List StoreOp}
    (he : e ∈ survivors c ops) (horder : PrunesInOrder ops) {op : StoreOp} (hop : op ∈ ops)
    (hprune : op.isPrune = true) (hlater : e.stamp.toNanos < op.time.toNanos) :
    op.spares e.stamp = true := by
  induction ops with
  | nil => cases hop
  | cons o ops ih =>
    rw [PrunesInOrder, List.pairwise_cons] at horder
    rcases List.mem_cons.1 hop with rfl | hop
    · -- a prune before the entry's own append is no later than the entry
      cases ho : op.entryFor c with
      | some e' => simp [StoreOp.isPrune_of_entryFor ho] at hprune
      | none =>
        simp only [survivors, ho] at he
        obtain ⟨a, ha, hae⟩ := List.mem_filterMap.1 (survivors_sublist_appended c ops |>.subset he)
        have := horder.1 a ha hprune
        rw [← StoreOp.stamp_of_entryFor hae] at this
        omega
    · simp only [survivors] at he
      split at he
      · split at he
        · rename_i hall
          rcases List.mem_cons.1 he with rfl | he
          · -- the entry appended by `o` was spared by every later operation
            exact List.all_eq_true.1 hall op hop
          · exact ih he horder.2 hop
        · exact ih he horder.2 hop
      · exact ih he horder.2 hop

/-! ## The sweep on a clock that keeps pace -/

/-- What happens while the sweep runs: a client's request is logged at the current time, or some
nanoseconds pass. -/
inductive SweepEvent where
  | append (client message : String)
  | wait (nanos : Nat)
  deriving Repr, DecidableEq

/-- The nanoseconds that pass over some events. -/
def waited : List SweepEvent → Nat
  | [] => 0
  | .append .. :: evs => waited evs
  | .wait d :: evs => d + waited evs

namespace Sweep

/-- The times since the start of the ticks that fall due when the time moves on to `later`: the
multiples of the period after the elapsed time, up to `later`. -/
def ticksUntil (s : Sweep) (later : Nat) : List Nat :=
  (List.range (s.dueBetween later)).map fun i => (s.elapsed / s.period + 1 + i) * s.period

/-- A tick that falls due comes after the elapsed time and no later than `later`. -/
theorem mem_ticksUntil {s : Sweep} {later t : Nat} (h : t ∈ s.ticksUntil later) :
    s.elapsed < t ∧ t ≤ later := by
  obtain ⟨i, hi, rfl⟩ := List.mem_map.1 h
  rw [List.mem_range, dueBetween] at hi
  have hP := s.period_pos
  constructor
  · -- the next multiple of the period is past the elapsed time
    have hnext : s.elapsed < s.elapsed / s.period * s.period + s.period := Nat.lt_div_mul_add hP
    have hle : (s.elapsed / s.period + 1) * s.period ≤ (s.elapsed / s.period + 1 + i) * s.period :=
      Nat.mul_le_mul_right _ (by omega)
    rw [Nat.add_one_mul] at hle
    omega
  · calc (s.elapsed / s.period + 1 + i) * s.period ≤ later / s.period * s.period :=
          Nat.mul_le_mul_right _ (by omega)
      _ ≤ later := Nat.div_mul_le_self later s.period

/-- Ticks fall due in order. -/
theorem ticksUntil_sorted (s : Sweep) (later : Nat) : (s.ticksUntil later).Pairwise (· ≤ ·) := by
  unfold ticksUntil
  rw [List.pairwise_map]
  exact (List.pairwise_lt_range).imp fun h => Nat.mul_le_mul_right _ (by omega)

/-- The time since the start of the last tick at or before `later`. -/
def lastTick (s : Sweep) (later : Nat) : Nat := later / s.period * s.period

/-- When the time moves past a multiple of the period, the last such multiple falls due. -/
theorem lastTick_mem_ticksUntil {s : Sweep} {later : Nat}
    (h : s.elapsed / s.period < later / s.period) : s.lastTick later ∈ s.ticksUntil later := by
  refine List.mem_map.2 ⟨later / s.period - s.elapsed / s.period - 1, ?_, ?_⟩
  · rw [List.mem_range, dueBetween]
    omega
  · simp only [lastTick]
    congr 1
    omega

/-- The store operations of a running sweep and of the requests logged meanwhile, when the wall
clock reads `start` nanoseconds as the sweep starts and keeps pace with the sweep's clock: a
request is stamped with the current time, and every tick prunes at the time it falls due. -/
def timeline (s : Sweep) (start : Int) : List SweepEvent → List StoreOp
  | [] => []
  | .append c m :: evs =>
    .append c m (Instant.ofNanos (start + s.elapsed)) :: s.timeline start evs
  | .wait d :: evs =>
    (s.ticksUntil (s.elapsed + d)).map (fun t => .prune s.retention (Instant.ofNanos (start + t))) ++
      { s with elapsed := s.elapsed + d }.timeline start evs

/-- Every operation of the timeline happens between the start of the events and their end: a
request stamped with the time it arrives, or a prune for the sweep's retention. -/
theorem mem_timeline {s : Sweep} {start : Int} {evs : List SweepEvent} {op : StoreOp}
    (h : op ∈ s.timeline start evs) :
    ∃ t, s.elapsed ≤ t ∧ t ≤ s.elapsed + waited evs ∧
      ((∃ c m, op = .append c m (Instant.ofNanos (start + t))) ∨
        op = .prune s.retention (Instant.ofNanos (start + t))) := by
  induction evs generalizing s with
  | nil => cases h
  | cons ev evs ih =>
    cases ev with
    | append c m =>
      rcases List.mem_cons.1 h with rfl | h
      · exact ⟨s.elapsed, le_refl _, by omega, .inl ⟨c, m, rfl⟩⟩
      · obtain ⟨t, h1, h2, h3⟩ := ih h
        exact ⟨t, h1, by simpa [waited] using h2, h3⟩
    | wait d =>
      rcases List.mem_append.1 h with h | h
      · obtain ⟨t, ht, rfl⟩ := List.mem_map.1 h
        have := mem_ticksUntil ht
        exact ⟨t, by omega, by simp [waited]; omega, .inr rfl⟩
      · obtain ⟨t, h1, h2, h3⟩ := ih h
        exact ⟨t, by simp at h1; omega, by simp [waited] at h2 ⊢; omega, h3⟩

/-- The operations of the timeline come in the order of their times. -/
theorem timeline_sorted (s : Sweep) (start : Int) (evs : List SweepEvent) :
    (s.timeline start evs).Pairwise (·.time.toNanos ≤ ·.time.toNanos) := by
  -- every operation is at least as late as the current time
  have hlater : ∀ (s : Sweep) evs, ∀ op ∈ s.timeline start evs,
      start + s.elapsed ≤ op.time.toNanos := by
    intro s evs op hop
    obtain ⟨t, ht, -, hop⟩ := mem_timeline hop
    rcases hop with ⟨c, m, rfl⟩ | rfl <;> simp [StoreOp.time] <;> omega
  induction evs generalizing s with
  | nil => exact List.Pairwise.nil
  | cons ev evs ih =>
    cases ev with
    | append c m =>
      refine List.pairwise_cons.2 ⟨fun op hop => ?_, ih s⟩
      simpa [StoreOp.time] using hlater s evs op hop
    | wait d =>
      refine List.pairwise_append.2 ⟨?_, ih _, fun a ha b hb => ?_⟩
      · rw [List.pairwise_map]
        exact (s.ticksUntil_sorted _).imp fun h => by simp [StoreOp.time]; omega
      · obtain ⟨t, ht, rfl⟩ := List.mem_map.1 ha
        have := mem_ticksUntil ht
        have hb' := hlater _ evs b hb
        simp only [StoreOp.time, Instant.toNanos_ofNanos] at hb' ⊢
        omega

/-- Once the time has passed a multiple of the period, the timeline holds the prune of the last
tick before the end. -/
theorem prune_lastTick_mem_timeline {s : Sweep} {start : Int} {evs : List SweepEvent}
    (h : s.elapsed / s.period < (s.elapsed + waited evs) / s.period) :
    .prune s.retention (Instant.ofNanos (start + s.lastTick (s.elapsed + waited evs))) ∈
      s.timeline start evs := by
  induction evs generalizing s with
  | nil => simp [waited] at h
  | cons ev evs ih =>
    cases ev with
    | append c m => exact List.mem_cons_of_mem _ (ih (by simpa [waited] using h))
    | wait d =>
      have hend : s.elapsed + waited (.wait d :: evs) = s.elapsed + d + waited evs := by
        simp only [waited]; omega
      rw [hend] at h ⊢
      -- the last tick falls in this wait, or in a later one
      by_cases hnext : (s.elapsed + d) / s.period < (s.elapsed + d + waited evs) / s.period
      · exact List.mem_append_right _ (@ih { s with elapsed := s.elapsed + d } hnext)
      · have hsame : s.lastTick (s.elapsed + d + waited evs) = s.lastTick (s.elapsed + d) := by
          have : (s.elapsed + d) / s.period ≤ (s.elapsed + d + waited evs) / s.period :=
            Nat.div_le_div_right (Nat.le_add_right _ _)
          simp only [lastTick]
          congr 1
          omega
        rw [hsame]
        exact List.mem_append_left _ (List.mem_map.2 ⟨_, lastTick_mem_ticksUntil (by omega), rfl⟩)

end Sweep

/-! ## The lifetime of an entry -/

/-- A history laid down before the sweep starts at `start`: appends only, each stamped with a
representable instant no later than the start. -/
def SeededBefore (start : Int) (seed : List StoreOp) : Prop :=
  ∀ op ∈ seed, ∃ c m t, op = .append c m (Instant.ofNanos t) ∧
    Instant.inRange (t / nanosPerSecond) = true ∧ t ≤ start

section Lifetime

variable {R : Age} {start : Int} {seed : List StoreOp} {evs : List SweepEvent}

/-- Every entry of the run is stamped with a representable instant no later than its end. -/
theorem stamp_of_mem_appended (hseed : SeededBefore start seed)
    (hstart : Instant.inRange (start / nanosPerSecond) = true)
    (hend : Instant.inRange ((start + waited evs) / nanosPerSecond) = true)
    {c : String} {e : LogEntry}
    (he : e ∈ appended c (seed ++ ({ retention := R } : Sweep).timeline start evs)) :
    ∃ t, e.stamp = Instant.ofNanos t ∧ Instant.inRange (t / nanosPerSecond) = true ∧
      t ≤ start + waited evs := by
  obtain ⟨op, hop, hentry⟩ := List.mem_filterMap.1 he
  rw [StoreOp.stamp_of_entryFor hentry]
  rcases List.mem_append.1 hop with hop | hop
  · obtain ⟨c', m, t, rfl, ht, hle⟩ := hseed op hop
    exact ⟨t, rfl, ht, by omega⟩
  · obtain ⟨t, -, hle, hshape⟩ := Sweep.mem_timeline hop
    rcases hshape with ⟨c', m, rfl⟩ | rfl
    · -- a request arrives between the start and the end, both representable
      have hle' : start + t ≤ start + waited evs := by simpa using hle
      exact ⟨start + t, rfl, Instant.inRange_between hstart hend (by omega) hle', hle'⟩
    · cases hentry

/-- The prunes of a run come in order: the history before the sweep holds none, and the
timeline is in the order of its times. -/
theorem prunesInOrder_run (hseed : SeededBefore start seed) :
    PrunesInOrder (seed ++ ({ retention := R } : Sweep).timeline start evs) := by
  -- the history before the sweep holds no prune, so nothing is asked of what follows it
  have hnone : ∀ a ∈ seed, ∀ b : StoreOp, a.isPrune = true → a.time.toNanos ≤ b.time.toNanos :=
    fun a ha _ h => by
      obtain ⟨c, m, t, rfl, -⟩ := hseed a ha
      cases h
  have htl : PrunesInOrder (({ retention := R } : Sweep).timeline start evs) :=
    (Sweep.timeline_sorted _ start evs).imp fun {a _} h (_ : a.isPrune = true) => h
  refine List.pairwise_append.2 ⟨?_, htl, fun a ha b _ => hnone a ha b⟩
  exact List.pairwise_of_forall_mem_list fun a ha b _ => hnone a ha b

/-- Each client's entries come in the order of their stamps when the history before the sweep
does: requests are stamped with the time they arrive, no earlier than the start. -/
theorem appended_sorted (hseed : SeededBefore start seed)
    (hsorted : ∀ c, (appended c seed).Pairwise (·.stamp.le ·.stamp)) (c : String) :
    (appended c (seed ++ ({ retention := R } : Sweep).timeline start evs)).Pairwise
      (·.stamp.le ·.stamp) := by
  -- the stamps of the timeline's entries are the times of their operations
  have htimed : ∀ e ∈ appended c (({ retention := R } : Sweep).timeline start evs),
      ∃ t : Nat, e.stamp = Instant.ofNanos (start + t) := by
    intro e he
    obtain ⟨op, hop, hentry⟩ := List.mem_filterMap.1 he
    obtain ⟨t, -, -, hshape⟩ := Sweep.mem_timeline hop
    rcases hshape with ⟨c', m, rfl⟩ | rfl
    · exact ⟨t, StoreOp.stamp_of_entryFor hentry⟩
    · cases hentry
  have htl : (appended c (({ retention := R } : Sweep).timeline start evs)).Pairwise
      (·.stamp.toNanos ≤ ·.stamp.toNanos) := by
    refine (Sweep.timeline_sorted _ start evs).filterMap _ fun a b hab e he e' he' => ?_
    rw [StoreOp.stamp_of_entryFor he, StoreOp.stamp_of_entryFor he']
    exact hab
  rw [appended, List.filterMap_append]
  refine List.pairwise_append.2 ⟨hsorted c, ?_, fun e he e' he' => ?_⟩
  · refine htl.imp_of_mem fun {e e'} he he' h => ?_
    obtain ⟨t, ht⟩ := htimed e he
    obtain ⟨t', ht'⟩ := htimed e' he'
    rw [ht, ht'] at h ⊢
    simpa [Instant.ofNanos_le_ofNanos] using h
  · -- an entry laid down before the start is no later than any request after it
    obtain ⟨op, hop, hentry⟩ := List.mem_filterMap.1 he
    obtain ⟨c', m, t, rfl, -, hle⟩ := hseed op hop
    obtain ⟨t', ht'⟩ := htimed e' he'
    rw [StoreOp.stamp_of_entryFor hentry, ht', StoreOp.time]
    exact Instant.ofNanos_le_ofNanos.2 (by omega)

/-- An entry younger than the retention at the end of the run is still in its client's log: no
tick removed it. -/
theorem young_mem_render (hseed : SeededBefore start seed)
    (hsorted : ∀ c, (appended c seed).Pairwise (·.stamp.le ·.stamp))
    (hstart : Instant.inRange (start / nanosPerSecond) = true)
    (hend : Instant.inRange ((start + waited evs) / nanosPerSecond) = true)
    {c : String} {e : LogEntry}
    (he : e ∈ appended c (seed ++ ({ retention := R } : Sweep).timeline start evs))
    (hyoung : start + waited evs - e.stamp.toNanos < R.toNanos) :
    e ∈ (LogStore.empty.run (seed ++ ({ retention := R } : Sweep).timeline start evs)).render c := by
  rw [LogStore.render_run_eq_survivors _ (appended_sorted hseed hsorted) c]
  obtain ⟨t, hst, -, -⟩ := stamp_of_mem_appended hseed hstart hend he
  refine mem_survivors_of_spared he fun op hop => ?_
  rcases List.mem_append.1 hop with hop | hop
  · obtain ⟨c', m, t', rfl, -⟩ := hseed op hop
    rfl
  · -- every tick came before the end, when the entry was already younger than the retention
    obtain ⟨t', -, hle, hshape⟩ := Sweep.mem_timeline hop
    rcases hshape with ⟨c', m, rfl⟩ | rfl
    · rfl
    · rw [hst]
      rw [hst, Instant.toNanos_ofNanos] at hyoung
      exact StoreOp.spares_prune_of_lt (by dsimp only; simp at hle; omega)

/-- Once the first tick has passed, every entry in a log is younger than the retention and one
period: the last tick dropped everything that had reached the retention. -/
theorem age_lt_of_mem_render (hseed : SeededBefore start seed)
    (hsorted : ∀ c, (appended c seed).Pairwise (·.stamp.le ·.stamp))
    (hstart : Instant.inRange (start / nanosPerSecond) = true)
    (hend : Instant.inRange ((start + waited evs) / nanosPerSecond) = true)
    (hfirst : ({ retention := R } : Sweep).period ≤ waited evs) {c : String} {e : LogEntry}
    (he : e ∈ (LogStore.empty.run (seed ++ ({ retention := R } : Sweep).timeline start evs)).render c) :
    start + waited evs - e.stamp.toNanos < R.toNanos + ({ retention := R } : Sweep).period := by
  set sweep : Sweep := { retention := R }
  rw [LogStore.render_run_eq_survivors _ (appended_sorted hseed hsorted) c] at he
  obtain ⟨t, hst, ht, -⟩ :=
    stamp_of_mem_appended hseed hstart hend ((survivors_sublist_appended c _).subset he)
  rw [hst, Instant.toNanos_ofNanos]
  have hP := sweep.period_pos
  -- the last tick fell less than a period before the end
  have hlast : sweep.lastTick (waited evs) ≤ waited evs ∧
      waited evs < sweep.lastTick (waited evs) + sweep.period :=
    ⟨Nat.div_mul_le_self _ _, Nat.lt_div_mul_add hP⟩
  have hmem := @Sweep.prune_lastTick_mem_timeline sweep start evs
    (by
      show 0 / sweep.period < (0 + waited evs) / sweep.period
      rw [Nat.zero_div, Nat.zero_add]
      exact Nat.div_pos hfirst hP)
  simp only [sweep, Nat.zero_add] at hmem
  by_cases hlt : t < start + sweep.lastTick (waited evs)
  · -- the last tick came after the entry and spared it, so the entry was younger than the
    -- retention then
    have hspared := spares_of_mem_survivors he (prunesInOrder_run hseed)
      (List.mem_append_right _ hmem) rfl (by simpa [hst, StoreOp.time] using hlt)
    rw [hst] at hspared
    have hrange : Instant.inRange ((start + sweep.lastTick (waited evs)) / nanosPerSecond) = true :=
      Instant.inRange_between hstart hend (by omega) (by omega)
    have := StoreOp.lt_of_spares_prune hrange ht hspared
    omega
  · omega

end Lifetime

/-- The lifetime of an entry under the sweep, for any retention `R`, a history laid down before
the sweep starts with each client's entries in order, and
any requests and waits while the wall clock stays representable. At the end of the run, no tick
has removed an entry younger than `R`; and once the first tick has passed, every entry left is
younger than `R` and one period, which is under one and a half retentions when `R` is at least
two milliseconds. -/
theorem sweep_lifetime (R : Age) (start : Int)
    (seed : List StoreOp) (evs : List SweepEvent) (hseed : SeededBefore start seed)
    (hsorted : ∀ c, (appended c seed).Pairwise (·.stamp.le ·.stamp))
    (hstart : Instant.inRange (start / nanosPerSecond) = true)
    (hend : Instant.inRange ((start + waited evs) / nanosPerSecond) = true) :
    let sweep : Sweep := { retention := R }
    let ops := seed ++ sweep.timeline start evs
    let now := start + waited evs
    (∀ c, ∀ e ∈ appended c ops, now - e.stamp.toNanos < R.toNanos →
      e ∈ (LogStore.empty.run ops).render c) ∧
    (sweep.period ≤ waited evs → ∀ c, ∀ e ∈ (LogStore.empty.run ops).render c,
      now - e.stamp.toNanos < R.toNanos + sweep.period ∧
      (2 * nanosPerMilli ≤ R.toNanos → 2 * (now - e.stamp.toNanos) < 3 * R.toNanos)) := by
  intro sweep ops now
  refine ⟨fun c e he hyoung => young_mem_render hseed hsorted hstart hend he hyoung,
    fun hfirst c e he => ?_⟩
  have hage := age_lt_of_mem_render hseed hsorted hstart hend hfirst he
  refine ⟨hage, fun hms => ?_⟩
  -- from two milliseconds on, the period is half the retention
  have hperiod : sweep.period = R.toNanos / 2 := by
    simp only [sweep, Sweep.period, minSweepPeriod]
    simp only [nanosPerMilli] at hms
    omega
  rw [hperiod] at hage
  omega

/-- A five-minute retention, an entry laid down 400 seconds before the sweep starts, and a
request 200 seconds into the sweep, 100 seconds before the end. -/
theorem sweep_lifetime_five_minutes :
    let R : Age := ⟨300, 0⟩
    let start : Int := 1700000000 * nanosPerSecond
    let seed := [StoreOp.append "c" "old" (Instant.ofNanos (start - 400 * nanosPerSecond))]
    let evs := [SweepEvent.wait (200 * nanosPerSecond), .append "c" "new",
      .wait (100 * nanosPerSecond)]
    (SeededBefore start seed ∧
      (∀ c, (appended c seed).Pairwise (·.stamp.le ·.stamp)) ∧
      Instant.inRange (start / nanosPerSecond) = true ∧
      Instant.inRange ((start + waited evs) / nanosPerSecond) = true) ∧
    let sweep : Sweep := { retention := R }
    let ops := seed ++ sweep.timeline start evs
    let now := start + waited evs
    (∀ c, ∀ e ∈ appended c ops, now - e.stamp.toNanos < R.toNanos →
      e ∈ (LogStore.empty.run ops).render c) ∧
    (sweep.period ≤ waited evs → ∀ c, ∀ e ∈ (LogStore.empty.run ops).render c,
      now - e.stamp.toNanos < R.toNanos + sweep.period ∧
      (2 * nanosPerMilli ≤ R.toNanos → 2 * (now - e.stamp.toNanos) < 3 * R.toNanos)) := by
  intro R start seed evs
  have hseed : SeededBefore start seed := by
    intro op hop
    rw [List.mem_singleton] at hop
    exact ⟨"c", "old", _, hop, by decide, by decide⟩
  have hsorted : ∀ c, (appended c seed).Pairwise (·.stamp.le ·.stamp) := by
    intro c
    by_cases hc : "c" = c <;> simp [seed, appended, StoreOp.entryFor, hc]
  have hstart : Instant.inRange (start / nanosPerSecond) = true := by decide
  have hend : Instant.inRange ((start + waited evs) / nanosPerSecond) = true := by decide
  exact ⟨⟨hseed, hsorted, hstart, hend⟩,
    sweep_lifetime R start seed evs hseed hsorted hstart hend⟩

end FirmwareRedirect
