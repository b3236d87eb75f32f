import FirmwareRedirect.Proofs.RequestHistory
import FirmwareRedirect.Proofs.History.Retention
import FirmwareRedirect.Proofs.History.PruneTwice
/-!
# The service's history is a run of store operations

While the service serves, two things change its history: answering a request, which records the
request's line under its client, and a sweep, which prunes the history with its retention at the
wall clock. Neither touches the service's configuration. So the history after any sequence of
requests and sweeps is the store that the matching sequence of appends and prunes leaves, and
what holds of every run of the store holds of the service's own runs: no client's log is empty,
the clients counted are those with a log, and each log is a stretch of what was recorded for its
client; and when the requests and sweeps come in time order, each client's log holds exactly the
lines recorded for it that every later sweep spared.

Main statements: `Service.run_eq`, and its consequences `Service.start_run_shape` and
`Service.start_run_render`.
-/

namespace FirmwareRedirect

/-- What the service meets while it serves: a request received at an instant, or a sweep of its
history with a retention at the wall clock's instant. -/
inductive ServiceEvent where
  | request (req : Http.Request) (now : Instant)
  | sweep (retention : Age) (now : Instant)

/-- When an event happens. -/
def ServiceEvent.time : ServiceEvent → Instant
  | .request _ now => now
  | .sweep _ now => now

namespace Service

/-- The service after one event. -/
def step (s : Service) : ServiceEvent → Service
  | .request req now => (s.answer req now).service
  | .sweep retention now => (s.sweep retention now).1

/-- The service after a sequence of events. -/
def run (s : Service) (evs : List ServiceEvent) : Service := evs.foldl step s

/-- The store operations an event amounts to, for a service's configuration: the append of the
request's line under its client, when it leaves one, or the sweep's prune. -/
def storeOps (s : Service) : ServiceEvent → List StoreOp
  | .request req now =>
    (s.visitNote req).toList.map (.append (clientIdentity req.headers req.peer s.realIpHeader) · now)
  | .sweep retention now => [.prune retention now]

/-- One event changes only the history, as its store operations do. -/
theorem step_eq (s : Service) (ev : ServiceEvent) :
    s.step ev = { s with history := s.history.run (s.storeOps ev) } := by
  cases ev with
  | request req now =>
    rw [step, answer_service]
    cases h : s.visitNote req <;> simp [storeOps, h, record, StoreOp.apply]
  | sweep retention now => simp [step, sweep, storeOps, StoreOp.apply]

/-- Any run of events changes only the history, as the run of their store operations does. -/
theorem run_eq (s : Service) (evs : List ServiceEvent) :
    s.run evs = { s with history := s.history.run (evs.flatMap s.storeOps) } := by
  induction evs generalizing s with
  | nil => rfl
  | cons ev evs ih =>
    -- the configuration after the first event is the one the rest is read with
    rw [run, List.foldl_cons, ← run, step_eq, ih]
    simp only [List.flatMap_cons, LogStore.run_append]
    rfl

/-- The history after any run of events is the run of their store operations. -/
theorem run_history (s : Service) (evs : List ServiceEvent) :
    (s.run evs).history = s.history.run (evs.flatMap s.storeOps) := by
  rw [run_eq]

/-- An entry that an event records is stamped with the event's time. -/
theorem stamp_of_mem_appended_storeOps {s : Service} {ev : ServiceEvent} {c : String}
    {e : LogEntry} (he : e ∈ appended c (s.storeOps ev)) : e.stamp = ev.time := by
  obtain ⟨op, hop, hentry⟩ := List.mem_filterMap.1 he
  cases ev with
  | request req now =>
    obtain ⟨m, -, rfl⟩ := List.mem_map.1 hop
    simp only [StoreOp.entryFor] at hentry
    split at hentry
    · cases hentry
      rfl
    · cases hentry
  | sweep retention now =>
    rw [storeOps, List.mem_singleton] at hop
    subst hop
    cases hentry

/-- Events in time order record each client's lines in time order. -/
theorem appended_storeOps_sorted (s : Service) {evs : List ServiceEvent}
    (hmono : evs.Pairwise (·.time.le ·.time = true)) (c : String) :
    (appended c (evs.flatMap s.storeOps)).Pairwise (·.stamp.le ·.stamp) := by
  rw [appended, List.filterMap_flatMap, List.pairwise_flatMap]
  -- the lines of one event share its time, and those of two events come in their order
  refine ⟨fun ev _ => List.pairwise_of_forall_mem_list fun x hx y hy => ?_,
    hmono.imp fun hle x hx y hy => ?_⟩ <;>
    rw [stamp_of_mem_appended_storeOps hx, stamp_of_mem_appended_storeOps hy]
  · exact Instant.le_refl _
  · exact hle

open LogStore in
/-- The history of a service that started afresh, after any requests and sweeps: no client's log
is empty, the clients counted are those whose log shows an entry, and each client's log is a
stretch at the end of the lines recorded for it. -/
theorem start_run_shape (settings : Settings) (t : ModelTable) (r : RedirectTemplate)
    (evs : List ServiceEvent) :
    let s := start settings t r
    let h := (s.run evs).history
    (∀ p ∈ h.logs, p.2 ≠ []) ∧
    h.clientCount = {c | h.render c ≠ []}.ncard ∧
    ∀ c, h.render c <:+ appended c (evs.flatMap s.storeOps) := by
  intro s h
  -- a fresh service's history is the empty store
  have hrun : h = empty.run (evs.flatMap s.storeOps) := run_history s evs
  have hvalid : Valid h := hrun ▸ valid_empty.run _
  refine ⟨hvalid.log_ne_nil, hvalid.clientCount_eq, fun c => ?_⟩
  have hsuffix := valid_empty.render_run_suffix (evs.flatMap s.storeOps) c
  rw [← hrun] at hsuffix
  simpa [empty] using hsuffix

/-- The history of a service that started afresh, after requests and sweeps in time order: each
client's log holds exactly the lines recorded for it that every later sweep spared. -/
theorem start_run_render (settings : Settings) (t : ModelTable) (r : RedirectTemplate)
    (evs : List ServiceEvent) (hmono : evs.Pairwise (·.time.le ·.time = true)) (c : String) :
    let s := start settings t r
    (s.run evs).history.render c = survivors c (evs.flatMap s.storeOps) := by
  intro s
  rw [run_history]
  exact LogStore.render_run_eq_survivors _ (appended_storeOps_sorted s hmono) c

end Service

end FirmwareRedirect
