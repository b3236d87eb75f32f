import Mathlib.Data.Set.Card
import FirmwareRedirect.History.Store
/-!
# The shape of the history store

Every run of appends and prunes from an empty store keeps it in one shape: each client has one
log, and no log is empty, so the number of clients is the number of clients whose log shows an
entry. A client's log is always a contiguous run of what was appended for it since it last had
none. A prune either cannot compute its threshold and changes nothing, or drops the stale front
of every log, removes the logs left empty, and counts what it dropped.

Main statement: `run_shape`, for every sequence of operations.
-/

namespace FirmwareRedirect.LogStore

/-! ## Clients and their logs -/

/-- The clients that have a log, in the order they first appeared. -/
def clients (s : LogStore) : List String := s.logs.map (·.1)

@[simp] theorem render_nil (c : String) : (⟨[]⟩ : LogStore).render c = [] := rfl

theorem render_cons (p : String × List LogEntry) (l : List (String × List LogEntry)) (c : String) :
    (⟨p :: l⟩ : LogStore).render c = if p.1 = c then p.2 else (⟨l⟩ : LogStore).render c := by
  by_cases h : p.1 = c <;> simp [render, h]

/-- A client without a log renders as empty. -/
theorem render_eq_nil_of_not_mem {s : LogStore} {c : String} (h : c ∉ s.clients) :
    s.render c = [] := by
  have : s.logs.find? (·.1 == c) = none := by
    rw [List.find?_eq_none]
    intro p hp hpc
    exact h (List.mem_map.2 ⟨p, hp, by simpa using hpc⟩)
  simp [render, this]

theorem any_key_iff_mem_clients (s : LogStore) (c : String) :
    s.logs.any (·.1 == c) = true ↔ c ∈ s.clients := by
  simp [clients]

/-! ## Appending -/

/-- A client that has a log gets the entry at the end of it, in place. -/
theorem appendAt_of_mem {s : LogStore} {c : String} (m : String) (t : Instant)
    (h : c ∈ s.clients) :
    s.appendAt c m t = ⟨s.logs.map fun p => if p.1 = c then (p.1, p.2 ++ [⟨t, m⟩]) else p⟩ := by
  have hany : s.logs.any (·.1 == c) = true := (any_key_iff_mem_clients s c).2 h
  simp only [appendAt, hany, if_true, beq_iff_eq]

/-- A client without a log gets a new one, after all the others. -/
theorem appendAt_of_not_mem {s : LogStore} {c : String} (m : String) (t : Instant)
    (h : c ∉ s.clients) : s.appendAt c m t = ⟨s.logs ++ [(c, [⟨t, m⟩])]⟩ := by
  have hany : ¬ s.logs.any (·.1 == c) = true := fun hany =>
    h ((any_key_iff_mem_clients s c).1 hany)
  simp only [appendAt, hany, if_false, Bool.false_eq_true]

/-- Appending adds the entry at the end of its client's log and leaves every other log alone. -/
theorem render_appendAt (s : LogStore) (c m : String) (t : Instant) (c' : String) :
    (s.appendAt c m t).render c' =
      if c = c' then s.render c' ++ [⟨t, m⟩] else s.render c' := by
  by_cases hc : c ∈ s.clients
  · -- the entry goes in place, and no key moves
    rw [appendAt_of_mem m t hc]
    simp only [render, List.find?_map]
    have hkey : ((·.1 == c') ∘ fun p : String × List LogEntry =>
        if p.1 = c then (p.1, p.2 ++ [⟨t, m⟩]) else p) = (·.1 == c') := by
      funext p
      by_cases hp : p.1 = c <;> simp [hp]
    rw [hkey]
    cases hf : s.logs.find? (·.1 == c') with
    | none =>
      have hc' : c ≠ c' := by
        rintro rfl
        obtain ⟨p, hp, rfl⟩ := List.mem_map.1 hc
        exact absurd (List.find?_eq_none.1 hf p hp) (by simp)
      simp [hc']
    | some p =>
      have hp : p.1 = c' := by simpa using List.find?_some hf
      by_cases hcc : c = c'
      · simp [hcc, hp]
      · simp [hp, hcc, Ne.symm hcc]
  · -- the new log comes last, so every earlier lookup is unchanged
    rw [appendAt_of_not_mem m t hc]
    simp only [render, List.find?_append]
    by_cases hcc : c = c'
    · subst hcc
      have : s.logs.find? (·.1 == c) = none := List.find?_eq_none.2 fun p hp hpc =>
        hc (List.mem_map.2 ⟨p, hp, by simpa using hpc⟩)
      simp [this]
    · cases s.logs.find? (·.1 == c') <;> simp [hcc]

/-- Appending opens a log for a client that has none, at the end; the clients stay otherwise. -/
theorem clients_appendAt (s : LogStore) (c m : String) (t : Instant) :
    (s.appendAt c m t).clients = if c ∈ s.clients then s.clients else s.clients ++ [c] := by
  by_cases hc : c ∈ s.clients
  · rw [if_pos hc, appendAt_of_mem m t hc]
    simp only [clients, List.map_map]
    apply List.map_congr_left
    intro p _
    by_cases hp : p.1 = c <;> simp [hp]
  · rw [if_neg hc, appendAt_of_not_mem m t hc]
    simp [clients]

/-! ## Pruning -/

/-- One client's log after pruning at a threshold: its stale front dropped, and no log at all
when nothing is left. -/
def keptLog (θ : Instant) (log : String × List LogEntry) : Option (String × List LogEntry) :=
  if log.2.dropWhile (stale θ) = [] then none else some (log.1, log.2.dropWhile (stale θ))

/-- How many entries pruning at a threshold drops from one client's log. -/
def droppedCount (θ : Instant) (log : String × List LogEntry) : Nat :=
  log.2.length - (log.2.dropWhile (stale θ)).length

/-- The number of entries held. -/
def size (s : LogStore) : Nat := (s.logs.map (·.2.length)).sum

/-- A folding step that keeps what `f` gives and counts what `g` gives. -/
theorem foldl_collect {α β : Type} {step : List β × Nat → α → List β × Nat}
    (f : α → Option β) (g : α → Nat)
    (hstep : ∀ acc x, step acc x = (acc.1 ++ (f x).toList, acc.2 + g x)) (l : List α)
    (acc : List β × Nat) :
    l.foldl step acc = (acc.1 ++ l.filterMap f, acc.2 + (l.map g).sum) := by
  induction l generalizing acc with
  | nil => simp
  | cons x l ih =>
    rw [List.foldl_cons, ih, hstep]
    cases hx : f x <;> simp [hx, Nat.add_assoc]

theorem pruneBefore_eq (s : LogStore) (θ : Instant) :
    s.pruneBefore θ = (⟨s.logs.filterMap (keptLog θ)⟩, (s.logs.map (droppedCount θ)).sum) := by
  simp only [pruneBefore]
  rw [foldl_collect (keptLog θ) (droppedCount θ)]
  · simp
  · intro acc x
    by_cases h : x.2.dropWhile (stale θ) = [] <;> simp [keptLog, droppedCount, h]

/-- Pruning drops the stale front of each log and removes the logs left empty, or changes nothing
when its threshold cannot be computed. -/
theorem pruneAt_eq (s : LogStore) (maxAge : Age) (now : Instant) :
    s.pruneAt maxAge now =
      match now.minus? maxAge with
      | none => (s, 0)
      | some θ => (⟨s.logs.filterMap (keptLog θ)⟩, (s.logs.map (droppedCount θ)).sum) := by
  cases h : now.minus? maxAge <;> simp [pruneAt, h, pruneBefore_eq]

/-- What a prune reports dropped, together with what it keeps, is what there was. -/
theorem pruneAt_count_add_size (s : LogStore) (maxAge : Age) (now : Instant) :
    (s.pruneAt maxAge now).2 + (s.pruneAt maxAge now).1.size = s.size := by
  rw [pruneAt_eq]
  cases hθ : now.minus? maxAge with
  | none => simp
  | some θ =>
    obtain ⟨logs⟩ := s
    simp only [size]
    -- each log splits into what is dropped and what is kept
    induction logs with
    | nil => rfl
    | cons p l ih =>
      have hsuffix : p.2.dropWhile (stale θ) <:+ p.2 := List.dropWhile_suffix (stale θ)
      have hle := hsuffix.length_le
      by_cases h : p.2.dropWhile (stale θ) = [] <;>
        simp [keptLog, droppedCount, h] at ih ⊢ <;> omega

/-- Pruning keeps the order of the clients that keep a log. -/
theorem clients_filterMap_keptLog_sublist (θ : Instant) (l : List (String × List LogEntry)) :
    ((l.filterMap (keptLog θ)).map (·.1)).Sublist (l.map (·.1)) := by
  induction l with
  | nil => simp
  | cons p l ih =>
    by_cases h : p.2.dropWhile (stale θ) = []
    · simpa [keptLog, h] using ih.cons p.1
    · simpa [keptLog, h] using ih.cons_cons p.1

/-! ## The shape every store keeps -/

/-- The shape every reachable store keeps: one log per client, and no log empty. -/
structure Valid (s : LogStore) : Prop where
  clients_nodup : s.clients.Nodup
  log_ne_nil : ∀ p ∈ s.logs, p.2 ≠ []

theorem valid_empty : Valid empty := ⟨List.nodup_nil, fun _ h => by cases h⟩

theorem Valid.appendAt {s : LogStore} (hs : Valid s) (c m : String) (t : Instant) :
    Valid (s.appendAt c m t) := by
  refine ⟨?_, ?_⟩
  · rw [clients_appendAt]
    split
    · exact hs.clients_nodup
    · exact hs.clients_nodup.append (List.nodup_singleton c) (by simpa [List.disjoint_singleton])
  · intro p hp
    by_cases hc : c ∈ s.clients
    · rw [appendAt_of_mem m t hc, List.mem_map] at hp
      obtain ⟨q, hq, rfl⟩ := hp
      split <;> simp [hs.log_ne_nil q hq]
    · rw [appendAt_of_not_mem m t hc, List.mem_append, List.mem_singleton] at hp
      rcases hp with hp | rfl
      · exact hs.log_ne_nil p hp
      · simp

theorem Valid.pruneBefore {s : LogStore} (hs : Valid s) (θ : Instant) :
    Valid (s.pruneBefore θ).1 := by
  rw [pruneBefore_eq]
  refine ⟨hs.clients_nodup.sublist (clients_filterMap_keptLog_sublist θ s.logs), ?_⟩
  intro p hp
  obtain ⟨q, -, hq⟩ := List.mem_filterMap.1 hp
  by_cases h : q.2.dropWhile (stale θ) = []
  · simp [keptLog, h] at hq
  · simp only [keptLog, h, if_false, Option.some.injEq] at hq
    rw [← hq]
    exact h

theorem Valid.pruneAt {s : LogStore} (hs : Valid s) (maxAge : Age) (now : Instant) :
    Valid (s.pruneAt maxAge now).1 := by
  unfold LogStore.pruneAt
  split
  · exact hs.pruneBefore _
  · exact hs

/-- In a valid store, a client has a log exactly when its log shows an entry. -/
theorem Valid.mem_clients_iff {s : LogStore} (hs : Valid s) (c : String) :
    c ∈ s.clients ↔ s.render c ≠ [] := by
  constructor
  · intro hc
    obtain ⟨p, hp, hpc⟩ := List.mem_map.1 hc
    cases hf : s.logs.find? (·.1 == c) with
    | none => exact absurd (hpc ▸ List.find?_eq_none.1 hf p hp) (by simp)
    | some q => simpa [render, hf] using hs.log_ne_nil q (List.mem_of_find?_eq_some hf)
  · intro h
    by_contra hc
    exact h (render_eq_nil_of_not_mem hc)

/-- In a valid store, the clients counted are those whose log shows an entry. -/
theorem Valid.clientCount_eq {s : LogStore} (hs : Valid s) :
    s.clientCount = {c | s.render c ≠ []}.ncard := by
  have hset : {c | s.render c ≠ []} = ↑s.clients.toFinset := by
    ext c
    simp [← hs.mem_clients_iff]
  rw [hset, Set.ncard_coe_finset, List.toFinset_card_of_nodup hs.clients_nodup]
  simp [clientCount, clients]

/-- In a valid store, pruning drops the stale front of each client's log. -/
theorem Valid.render_pruneBefore {s : LogStore} (hs : Valid s) (θ : Instant) (c : String) :
    (s.pruneBefore θ).1.render c = (s.render c).dropWhile (stale θ) := by
  obtain ⟨logs⟩ := s
  have hnd : (logs.map (·.1)).Nodup := hs.clients_nodup
  rw [pruneBefore_eq]
  clear hs
  -- the lookup meets the client's only log, wherever it stands
  induction logs with
  | nil => simp
  | cons p l ih =>
    simp only [List.map_cons, List.nodup_cons] at hnd
    by_cases hp : p.1 = c
    · -- the first log is the client's; no later one is
      have hl : (⟨l.filterMap (keptLog θ)⟩ : LogStore).render c = [] :=
        render_eq_nil_of_not_mem fun hm =>
          hnd.1 (hp ▸ (clients_filterMap_keptLog_sublist θ l).subset hm)
      by_cases h : p.2.dropWhile (stale θ) = []
      · simp [keptLog, h, hl, render_cons, hp]
      · simp [keptLog, h, render_cons, hp]
    · by_cases h : p.2.dropWhile (stale θ) = [] <;>
        simp [keptLog, h, render_cons, hp, ih hnd.2]

/-- In a valid store, a prune drops the stale front of each client's log, or changes nothing. -/
theorem Valid.render_pruneAt {s : LogStore} (hs : Valid s) (maxAge : Age) (now : Instant)
    (c : String) :
    (s.pruneAt maxAge now).1.render c =
      match now.minus? maxAge with
      | none => s.render c
      | some θ => (s.render c).dropWhile (stale θ) := by
  rw [pruneAt_eq]
  cases now.minus? maxAge with
  | none => rfl
  | some θ => simpa [pruneBefore_eq] using hs.render_pruneBefore θ c

end FirmwareRedirect.LogStore

namespace FirmwareRedirect

/-! ## Runs of operations -/

/-- A change to the history store: an entry appended to a client's log, stamped with the given
instant (the clock's reading, for an append stamped on arrival), or a prune at `now` of the
entries older than `maxAge`. Reading a log or counting clients changes nothing. -/
inductive StoreOp where
  | append (client message : String) (stamp : Instant)
  | prune (maxAge : Age) (now : Instant)
  deriving Repr, DecidableEq

namespace StoreOp

/-- The store after one operation. -/
def apply (s : LogStore) : StoreOp → LogStore
  | .append c m t => s.appendAt c m t
  | .prune maxAge now => (s.pruneAt maxAge now).1

/-- The entry an operation adds to a client's log. -/
def entryFor (c : String) : StoreOp → Option LogEntry
  | .append c' m t => if c' = c then some ⟨t, m⟩ else none
  | .prune .. => none

end StoreOp

/-- The store after a sequence of operations. -/
def LogStore.run (s : LogStore) (ops : List StoreOp) : LogStore := ops.foldl StoreOp.apply s

/-- The entries a sequence of operations appends to a client's log, in order. -/
def appended (c : String) (ops : List StoreOp) : List LogEntry := ops.filterMap (·.entryFor c)

theorem appended_cons (c : String) (op : StoreOp) (ops : List StoreOp) :
    appended c (op :: ops) = (op.entryFor c).toList ++ appended c ops := by
  cases h : op.entryFor c <;> simp [appended, h]

namespace LogStore

@[simp] theorem run_nil (s : LogStore) : s.run [] = s := rfl

@[simp] theorem run_cons (s : LogStore) (op : StoreOp) (ops : List StoreOp) :
    s.run (op :: ops) = (op.apply s).run ops := rfl

theorem run_append (s : LogStore) (ops ops' : List StoreOp) :
    s.run (ops ++ ops') = (s.run ops).run ops' := List.foldl_append

theorem Valid.apply {s : LogStore} (hs : Valid s) : ∀ op : StoreOp, Valid (op.apply s)
  | .append c m t => hs.appendAt c m t
  | .prune maxAge now => hs.pruneAt maxAge now

/-- Every run keeps a valid store valid. -/
theorem Valid.run {s : LogStore} (hs : Valid s) (ops : List StoreOp) : Valid (s.run ops) := by
  induction ops generalizing s with
  | nil => exact hs
  | cons op ops ih => exact ih (hs.apply op)

/-- One operation leaves a client's log a suffix of the log before it and what it appends. -/
theorem Valid.render_apply_suffix {s : LogStore} (hs : Valid s) (op : StoreOp) (c : String) :
    (op.apply s).render c <:+ s.render c ++ (op.entryFor c).toList := by
  cases op with
  | append c' m t =>
    by_cases h : c' = c <;> simp [StoreOp.apply, StoreOp.entryFor, render_appendAt, h]
  | prune maxAge now =>
    simp only [StoreOp.apply, StoreOp.entryFor, hs.render_pruneAt, Option.toList_none,
      List.append_nil]
    split
    · exact List.suffix_refl _
    · exact List.dropWhile_suffix _

/-- Over a run, a client's log stays a suffix of its log at the start and what the run appends
for it. -/
theorem Valid.render_run_suffix {s : LogStore} (hs : Valid s) (ops : List StoreOp) (c : String) :
    (s.run ops).render c <:+ s.render c ++ appended c ops := by
  induction ops generalizing s with
  | nil => simp [appended]
  | cons op ops ih =>
    have hstep : (op.apply s).render c ++ appended c ops <:+
        s.render c ++ appended c (op :: ops) := by
      rw [appended_cons, ← List.append_assoc]
      exact List.suffix_append_self_iff.2 (hs.render_apply_suffix op c)
    exact (ih (hs.apply op)).trans hstep

end LogStore

open LogStore in
/-- The shape of the store after any run from empty: no log is empty, so the clients counted are
those whose log shows an entry; a client's log is a contiguous run of what was appended for it
since any point at which it had no log; and a prune either changes nothing, when its threshold
cannot be computed, or drops the stale front of every log, removes the logs left empty and
reports how many entries it dropped. -/
theorem run_shape (ops : List StoreOp) :
    let s := empty.run ops
    (∀ p ∈ s.logs, p.2 ≠ []) ∧
    s.clientCount = {c | s.render c ≠ []}.ncard ∧
    (∀ c k, c ∉ (empty.run (ops.take k)).clients → s.render c <:+ appended c (ops.drop k)) ∧
    ∀ maxAge now, s.pruneAt maxAge now =
      match now.minus? maxAge with
      | none => (s, 0)
      | some θ => (⟨s.logs.filterMap (keptLog θ)⟩, (s.logs.map (droppedCount θ)).sum) := by
  have hs : Valid (empty.run ops) := valid_empty.run ops
  refine ⟨hs.log_ne_nil, hs.clientCount_eq, fun c k hc => ?_, pruneAt_eq _⟩
  -- run the operations before `k`, where the client has no log, then the rest
  have hk := (valid_empty.run (ops.take k)).render_run_suffix (ops.drop k) c
  rwa [← run_append, List.take_append_drop, render_eq_nil_of_not_mem hc, List.nil_append] at hk

end FirmwareRedirect
