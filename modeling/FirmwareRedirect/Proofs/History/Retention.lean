import FirmwareRedirect.Proofs.History.Shape
/-!
# What the history retains

When the entries appended for each client come in order of their stamps, pruning a log's stale
front is the same as keeping its fresh entries. A client's log is then, at every point of a run,
exactly the entries appended for it that every later prune spared: nothing is lost, repeated or
reordered, and every log stays in order of its stamps.

Main statement: `render_eq_survivors`, for every run whose appends are in order for each client.
-/

namespace FirmwareRedirect

namespace StoreOp

/-- Whether an operation leaves an entry stamped `t` alone: an append does, and so does a prune
whose threshold cannot be computed or lies before `t`. -/
def spares (t : Instant) : StoreOp → Bool
  | .append .. => true
  | .prune maxAge now =>
    match now.minus? maxAge with
    | some θ => θ.lt t
    | none => true

end StoreOp

/-- The entries appended for a client that every later operation spares, in the order they were
appended. -/
def survivors (c : String) : List StoreOp → List LogEntry
  | [] => []
  | op :: ops =>
    match op.entryFor c with
    | some e => if ops.all (·.spares e.stamp) then e :: survivors c ops else survivors c ops
    | none => survivors c ops

/-- One more operation at the end keeps the survivors it spares and adds what it appends. -/
theorem survivors_append_singleton (c : String) (ops : List StoreOp) (op : StoreOp) :
    survivors c (ops ++ [op]) =
      (survivors c ops).filter (op.spares ·.stamp) ++ (op.entryFor c).toList := by
  induction ops with
  | nil => cases h : op.entryFor c <;> simp [survivors, h]
  | cons o ops ih =>
    cases h : o.entryFor c with
    | none => simp [survivors, h, ih]
    | some e =>
      by_cases hall : ops.all (·.spares e.stamp) = true <;>
        by_cases hop : op.spares e.stamp = true <;> simp [survivors, h, ih, hall, hop]

/-- The survivors are some of the entries appended, in order. -/
theorem survivors_sublist_appended (c : String) (ops : List StoreOp) :
    (survivors c ops).Sublist (appended c ops) := by
  induction ops with
  | nil => exact List.Sublist.slnil
  | cons op ops ih =>
    rw [appended_cons]
    cases h : op.entryFor c with
    | none => simpa [survivors, h] using ih
    | some e =>
      simp only [survivors, h, Option.toList_some, List.cons_append, List.nil_append]
      split
      · exact ih.cons_cons e
      · exact ih.cons e

/-- On a log in order of its stamps, dropping the stale front keeps exactly the fresh entries. -/
theorem dropWhile_stale_eq_filter (θ : Instant) {l : List LogEntry}
    (hl : l.Pairwise (·.stamp.le ·.stamp)) :
    l.dropWhile (LogStore.stale θ) = l.filter (θ.lt ·.stamp) := by
  induction l with
  | nil => rfl
  | cons e l ih =>
    rw [List.pairwise_cons] at hl
    by_cases he : LogStore.stale θ e = true
    · have hlt : θ.lt e.stamp = false := by
        cases h : θ.lt e.stamp
        · rfl
        · exact absurd (Instant.le_eq_false.2 h) (by simpa [LogStore.stale] using he)
      rw [List.dropWhile_cons_of_pos he, ih hl.2, List.filter_cons_of_neg (by simp [hlt])]
    · -- a fresh entry stops the drop, and every later entry is at least as fresh
      have hlt : θ.lt e.stamp = true := Instant.le_eq_false.1 (by simpa [LogStore.stale] using he)
      have hrest : l.filter (θ.lt ·.stamp) = l :=
        List.filter_eq_self.2 fun f hf => Instant.lt_of_lt_of_le hlt (hl.1 f hf)
      rw [List.dropWhile_cons_of_neg he]
      simp [hlt, hrest]

namespace LogStore

/-- With each client's appends in order of their stamps, a client's log after a run from empty is
exactly its survivors. -/
theorem render_run_eq_survivors (ops : List StoreOp)
    (hmono : ∀ c, (appended c ops).Pairwise (·.stamp.le ·.stamp)) (c : String) :
    (empty.run ops).render c = survivors c ops := by
  induction ops using List.reverseRecOn generalizing c with
  | nil => rfl
  | append_singleton ops op ih =>
    have hmono' : ∀ c, (appended c ops).Pairwise (·.stamp.le ·.stamp) := fun c =>
      (List.pairwise_append.1 (by simpa [appended] using hmono c)).1
    have hsorted := (hmono' c).sublist (survivors_sublist_appended c ops)
    rw [run_append, survivors_append_singleton, run_cons, run_nil, ← ih hmono' c]
    cases op with
    | append c' m t =>
      by_cases h : c' = c <;>
        simp [StoreOp.apply, StoreOp.entryFor, StoreOp.spares, render_appendAt, h]
    | prune maxAge now =>
      rw [StoreOp.apply, (valid_empty.run ops).render_pruneAt maxAge now c]
      cases hθ : now.minus? maxAge with
      | none => simp [StoreOp.spares, StoreOp.entryFor, hθ]
      | some θ =>
        rw [← ih hmono' c] at hsorted
        simp [StoreOp.spares, StoreOp.entryFor, hθ, dropWhile_stale_eq_filter θ hsorted]

end LogStore

open LogStore in
/-- At every point of a run from empty whose appends come in order of their stamps for each
client, each client's log is exactly the entries appended for it that every later prune spared,
in order of their stamps; the clients counted are those with such entries; and every prune
reports as dropped exactly the entries it takes out. -/
theorem render_eq_survivors (ops : List StoreOp)
    (hmono : ∀ c, (appended c ops).Pairwise (·.stamp.le ·.stamp)) (k : Nat) :
    let s := empty.run (ops.take k)
    (∀ c, s.render c = survivors c (ops.take k) ∧ (s.render c).Pairwise (·.stamp.le ·.stamp)) ∧
    s.clientCount = {c | survivors c (ops.take k) ≠ []}.ncard ∧
    ∀ maxAge now, (s.pruneAt maxAge now).2 + (s.pruneAt maxAge now).1.size = s.size := by
  -- the appends of a prefix are a prefix of the appends
  have htake : ∀ c, (appended c (ops.take k)).Pairwise (·.stamp.le ·.stamp) := fun c =>
    (hmono c).sublist ((List.take_sublist k ops).filterMap _)
  have hrender := render_run_eq_survivors (ops.take k) htake
  refine ⟨fun c => ⟨hrender c, ?_⟩, ?_, pruneAt_count_add_size _⟩
  · rw [hrender c]
    exact (htake c).sublist (survivors_sublist_appended c _)
  · simp only [(valid_empty.run _).clientCount_eq, hrender]

/-- Three entries for one client a minute apart and a prune that keeps five minutes: the first is
older than the window and goes, the two others stay. -/
theorem render_eq_survivors_fresh_tail :
    let ops := [.append "c" "old" ⟨400, 0⟩, .append "c" "half" ⟨850, 0⟩,
      .append "c" "new" ⟨1000, 0⟩, .prune ⟨300, 0⟩ ⟨1000, 0⟩]
    (∀ c, (appended c ops).Pairwise (·.stamp.le ·.stamp)) ∧
    let s := LogStore.empty.run (ops.take 4)
    (∀ c, s.render c = survivors c (ops.take 4) ∧
      (s.render c).Pairwise (·.stamp.le ·.stamp)) ∧
    s.clientCount = {c | survivors c (ops.take 4) ≠ []}.ncard ∧
    ∀ maxAge now, (s.pruneAt maxAge now).2 + (s.pruneAt maxAge now).1.size = s.size := by
  intro ops
  have hmono : ∀ c, (appended c ops).Pairwise (·.stamp.le ·.stamp) := by
    intro c
    by_cases h : "c" = c
    · subst h
      decide
    · simp [ops, appended, StoreOp.entryFor, h]
  exact ⟨hmono, render_eq_survivors ops hmono 4⟩

end FirmwareRedirect
