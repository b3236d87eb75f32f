import FirmwareRedirect.Proofs.History.Shape
/-!
# Pruning twice

A prune drops, from the front of each log, the entries stamped at or before its threshold, up to
the first later one. An entry stale at the earlier of two thresholds is stale at the later one,
so two prunes in a row leave the store as the prune at the later threshold leaves it alone, and
the two counts add up to that prune's count. Nothing here needs the logs to be in time order:
the front dropped at the earlier threshold is part of the front dropped at the later one.

Main statement: `pruneAt_twice`. A repeated prune, or a prune at an earlier threshold after one
at a later threshold, drops nothing.
-/

namespace FirmwareRedirect

namespace Instant

theorem le_refl (a : Instant) : a.le a = true := by
  rw [le_eq_true]
  omega

theorem le_trans {a b c : Instant} (hab : a.le b = true) (hbc : b.le c = true) :
    a.le c = true := by
  rw [le_eq_true] at *
  omega

/-- Instants are totally ordered: one that is not at or before `b` is after it. -/
theorem le_of_not_le {a b : Instant} (h : b.le a = false) : a.le b = true := by
  rw [le_eq_false, lt_eq_true] at h
  rw [le_eq_true]
  omega

end Instant

/-- Dropping the front that holds `p`, then the front that holds a test `q` implied by `p`,
drops the front that holds `q`. -/
theorem dropWhile_dropWhile_eq_right {α : Type} {p q : α → Bool}
    (h : ∀ a, p a = true → q a = true) (l : List α) :
    (l.dropWhile p).dropWhile q = l.dropWhile q := by
  induction l with
  | nil => rfl
  | cons a l ih =>
    by_cases hp : p a = true
    · simp [hp, h a hp, ih]
    · simp [hp]

/-- After dropping the front that holds `p`, a test that implies `p` finds nothing more to drop. -/
theorem dropWhile_dropWhile_eq_left {α : Type} {p q : α → Bool}
    (h : ∀ a, q a = true → p a = true) (l : List α) :
    (l.dropWhile p).dropWhile q = l.dropWhile p := by
  induction l with
  | nil => rfl
  | cons a l ih =>
    by_cases hp : p a = true
    · simp [hp, ih]
    · have hq : q a ≠ true := fun hq => hp (h a hq)
      simp [hp, hq]

namespace LogStore

/-- The later of two thresholds. -/
def later (θ₁ θ₂ : Instant) : Instant := if θ₂.le θ₁ then θ₁ else θ₂

/-- An entry stale at a threshold is stale at every later one. -/
theorem stale_mono {θ₁ θ₂ : Instant} (h : θ₁.le θ₂ = true) (e : LogEntry)
    (he : stale θ₁ e = true) : stale θ₂ e = true :=
  Instant.le_trans he h

/-- Dropping the stale front at one threshold and then at another drops the stale front at the
later of the two. -/
theorem dropWhile_stale_stale (θ₁ θ₂ : Instant) (l : List LogEntry) :
    (l.dropWhile (stale θ₁)).dropWhile (stale θ₂) = l.dropWhile (stale (later θ₁ θ₂)) := by
  unfold later
  cases h : θ₂.le θ₁
  · exact dropWhile_dropWhile_eq_right (stale_mono (Instant.le_of_not_le h)) l
  · exact dropWhile_dropWhile_eq_left (stale_mono h) l

/-- One log pruned at one threshold and then at another is the log pruned at the later one. -/
theorem keptLog_bind_keptLog (θ₁ θ₂ : Instant) (log : String × List LogEntry) :
    (keptLog θ₁ log).bind (keptLog θ₂) = keptLog (later θ₁ θ₂) log := by
  unfold keptLog
  rw [← dropWhile_stale_stale θ₁ θ₂]
  by_cases h₁ : log.2.dropWhile (stale θ₁) = [] <;> simp [h₁]

/-- What one log loses to the two prunes adds up to what it loses to the later one. -/
theorem droppedCount_add (θ₁ θ₂ : Instant) (log : String × List LogEntry) :
    droppedCount θ₁ log + ((keptLog θ₁ log).map (droppedCount θ₂)).getD 0 =
      droppedCount (later θ₁ θ₂) log := by
  unfold keptLog droppedCount
  rw [← dropWhile_stale_stale θ₁ θ₂]
  by_cases h₁ : log.2.dropWhile (stale θ₁) = []
  · simp [h₁]
  · -- each prune keeps a suffix of what it is given
    have hsuf₁ := (List.dropWhile_suffix (stale θ₁) :
      log.2.dropWhile (stale θ₁) <:+ log.2).length_le
    have hsuf₂ := (List.dropWhile_suffix (stale θ₂) :
      (log.2.dropWhile (stale θ₁)).dropWhile (stale θ₂) <:+ log.2.dropWhile (stale θ₁)).length_le
    simp [h₁]
    omega

/-- Two prunes at set thresholds in a row: the store the later threshold leaves, and its count. -/
theorem pruneBefore_pruneBefore (s : LogStore) (θ₁ θ₂ : Instant) :
    (((s.pruneBefore θ₁).1.pruneBefore θ₂).1,
        (s.pruneBefore θ₁).2 + ((s.pruneBefore θ₁).1.pruneBefore θ₂).2) =
      s.pruneBefore (later θ₁ θ₂) := by
  obtain ⟨logs⟩ := s
  simp only [pruneBefore_eq, List.filterMap_filterMap, keptLog_bind_keptLog]
  congr 1
  -- the counts add up log by log
  induction logs with
  | nil => rfl
  | cons log logs ih =>
    have hlog := droppedCount_add θ₁ θ₂ log
    cases h : keptLog θ₁ log <;> simp_all <;> omega

/-- Two prunes in a row leave the store as the one at the later threshold leaves it, and their
counts add up to its count. -/
theorem pruneAt_pruneAt (s : LogStore) {a₁ a₂ : Age} {n₁ n₂ θ₁ θ₂ : Instant}
    (h₁ : n₁.minus? a₁ = some θ₁) (h₂ : n₂.minus? a₂ = some θ₂) :
    (((s.pruneAt a₁ n₁).1.pruneAt a₂ n₂).1,
        (s.pruneAt a₁ n₁).2 + ((s.pruneAt a₁ n₁).1.pruneAt a₂ n₂).2) =
      if θ₂.le θ₁ then s.pruneAt a₁ n₁ else s.pruneAt a₂ n₂ := by
  simp only [pruneAt, h₁, h₂]
  rw [pruneBefore_pruneBefore]
  by_cases h : θ₂.le θ₁ <;> simp [later, h]

/-- A prune at a threshold no later than the last one drops nothing. -/
theorem pruneAt_pruneAt_of_le (s : LogStore) {a₁ a₂ : Age} {n₁ n₂ θ₁ θ₂ : Instant}
    (h₁ : n₁.minus? a₁ = some θ₁) (h₂ : n₂.minus? a₂ = some θ₂) (hle : θ₂.le θ₁ = true) :
    (s.pruneAt a₁ n₁).1.pruneAt a₂ n₂ = ((s.pruneAt a₁ n₁).1, 0) := by
  have h := pruneAt_pruneAt s h₁ h₂
  rw [if_pos hle, Prod.ext_iff] at h
  exact Prod.ext h.1 (by simp only at h; omega)

/-- Pruning twice with the same arguments drops nothing the second time. -/
theorem pruneAt_idem (s : LogStore) (a : Age) (n : Instant) :
    (s.pruneAt a n).1.pruneAt a n = ((s.pruneAt a n).1, 0) := by
  cases h : n.minus? a with
  | none => simp [pruneAt, h]
  | some θ => exact pruneAt_pruneAt_of_le s h h (Instant.le_refl θ)

end LogStore

open LogStore in
/-- Two prunes whose thresholds can be computed, in a row, leave the store as the one with the
later threshold would alone, and their counts add up to its count, whatever order the entries
of each log are in. So a prune at a threshold no later than the last one, or a prune repeated
with the same arguments, drops nothing and changes nothing. -/
theorem pruneAt_twice (s : LogStore) {a₁ a₂ : Age} {n₁ n₂ θ₁ θ₂ : Instant}
    (h₁ : n₁.minus? a₁ = some θ₁) (h₂ : n₂.minus? a₂ = some θ₂) :
    (((s.pruneAt a₁ n₁).1.pruneAt a₂ n₂).1,
        (s.pruneAt a₁ n₁).2 + ((s.pruneAt a₁ n₁).1.pruneAt a₂ n₂).2) =
      (if θ₂.le θ₁ then s.pruneAt a₁ n₁ else s.pruneAt a₂ n₂) ∧
    (θ₂.le θ₁ = true → (s.pruneAt a₁ n₁).1.pruneAt a₂ n₂ = ((s.pruneAt a₁ n₁).1, 0)) ∧
    (s.pruneAt a₁ n₁).1.pruneAt a₁ n₁ = ((s.pruneAt a₁ n₁).1, 0) :=
  ⟨pruneAt_pruneAt s h₁ h₂, pruneAt_pruneAt_of_le s h₁ h₂, pruneAt_idem s a₁ n₁⟩

/-- Two prunes over a log out of time order: ten seconds before 160 s, then before 110 s. -/
theorem pruneAt_twice_unsorted :
    Instant.minus? ⟨160, 0⟩ ⟨10, 0⟩ = some ⟨150, 0⟩ ∧
    Instant.minus? ⟨110, 0⟩ ⟨10, 0⟩ = some ⟨100, 0⟩ ∧
    let s : LogStore := ⟨[("a", [⟨⟨100, 0⟩, "x"⟩, ⟨⟨50, 0⟩, "y"⟩, ⟨⟨200, 0⟩, "z"⟩])]⟩
    ((((s.pruneAt ⟨10, 0⟩ ⟨160, 0⟩).1.pruneAt ⟨10, 0⟩ ⟨110, 0⟩).1,
        (s.pruneAt ⟨10, 0⟩ ⟨160, 0⟩).2 +
          ((s.pruneAt ⟨10, 0⟩ ⟨160, 0⟩).1.pruneAt ⟨10, 0⟩ ⟨110, 0⟩).2) =
      (if Instant.le ⟨100, 0⟩ ⟨150, 0⟩ then s.pruneAt ⟨10, 0⟩ ⟨160, 0⟩
        else s.pruneAt ⟨10, 0⟩ ⟨110, 0⟩) ∧
    (Instant.le ⟨100, 0⟩ ⟨150, 0⟩ = true →
      (s.pruneAt ⟨10, 0⟩ ⟨160, 0⟩).1.pruneAt ⟨10, 0⟩ ⟨110, 0⟩ =
        ((s.pruneAt ⟨10, 0⟩ ⟨160, 0⟩).1, 0)) ∧
    (s.pruneAt ⟨10, 0⟩ ⟨160, 0⟩).1.pruneAt ⟨10, 0⟩ ⟨160, 0⟩ =
      ((s.pruneAt ⟨10, 0⟩ ⟨160, 0⟩).1, 0)) :=
  ⟨by decide, by decide, pruneAt_twice _ (by decide) (by decide)⟩

end FirmwareRedirect
