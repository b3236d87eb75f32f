import FirmwareRedirect.Service.Routes
import FirmwareRedirect.Proofs.History.Shape
/-!
# What a request leaves in the history

Answering a request records at most one line, in the log of the client that sent it, and touches
nothing else of the service. `visitNote` says which line: the outcome of a firmware request, the
browser that asked for the instructions, a visit to the history page, or a path that is not
served. Only a request to the update path that names neither a device nor a browser leaves no
line, and it is answered `404`.

Main statement: `answer_history`, for every service, request and instant.
-/

namespace FirmwareRedirect

namespace Service

/-- The line a request leaves in its client's history: a device's version and ID with the download
URL or the reason it has none, the browser that asked for the instructions, a visit to the history
page, or the path that is not served. A request to the update path that names neither a device
nor a browser leaves none. -/
def visitNote (s : Service) (req : Http.Request) : Option String :=
  if req.path = "/update" then
    match req.headers.text? fwVersionHeader, req.headers.text? deviceIdHeader with
    | some fw, some id =>
      some ("firmware request: " ++ Text.quote fw ++ " " ++ Text.quote id ++ " -> " ++
        match s.models.resolve fw id with
        | .ok model => s.redirect.render model
        | .error e => e.message)
    | _, _ => (req.headers.text? userAgentHeader).map ("index request from " ++ Text.quote ·)
  else if req.path = "/log" then some "log request"
  else some ("unknown request " ++ Text.quote req.path)

/-- A firmware request records its outcome, whatever else it logs. -/
theorem firmware_service (s : Service) (client fw id : String) (now : Instant) :
    (s.firmware client fw id now).service =
      s.record client ("firmware request: " ++ Text.quote fw ++ " " ++ Text.quote id ++ " -> " ++
        match s.models.resolve fw id with
        | .ok model => s.redirect.render model
        | .error e => e.message) now := by
  unfold firmware
  cases s.models.resolve fw id with
  | ok model => rfl
  | error e => cases e <;> rfl

/-- The update path without a device's headers records a browser's visit, or nothing. -/
theorem update_service_of_not_device (s : Service) (client : String) (hs : Http.Headers)
    (now : Instant)
    (h : ¬ ∃ fw id, hs.text? fwVersionHeader = some fw ∧ hs.text? deviceIdHeader = some id) :
    (s.update client hs now).service =
      match hs.text? userAgentHeader with
      | some agent => s.record client ("index request from " ++ Text.quote agent) now
      | none => s := by
  unfold update
  split
  · exact absurd ⟨_, _, ‹_›, ‹_›⟩ h
  · cases hs.text? userAgentHeader <;> rfl

/-- The service after a request: the same configuration, and the request's line recorded under
its client. -/
theorem answer_service (s : Service) (req : Http.Request) (now : Instant) :
    (s.answer req now).service =
      match s.visitNote req with
      | some m => s.record (clientIdentity req.headers req.peer s.realIpHeader) m now
      | none => s := by
  -- a `HEAD` request changes only the response
  have hhead : (s.answer req now).service =
      (if req.path = "/update" then
        s.update (clientIdentity req.headers req.peer s.realIpHeader) req.headers now
      else if req.path = "/log" then s.log (clientIdentity req.headers req.peer s.realIpHeader) now
      else s.unknown (clientIdentity req.headers req.peer s.realIpHeader) req.path now).service := by
    unfold answer
    cases req.method.isHead <;> rfl
  rw [hhead, visitNote]
  by_cases hu : req.path = "/update"
  · simp only [hu, if_true]
    cases hfw : req.headers.text? fwVersionHeader with
    | some fw =>
      cases hid : req.headers.text? deviceIdHeader with
      | some id =>
        -- a device: both of its headers are there
        simp only [update, hfw, hid]
        exact firmware_service ..
      | none =>
        rw [update_service_of_not_device _ _ _ _ (by simp [hid])]
        cases req.headers.text? userAgentHeader <;> rfl
    | none =>
      rw [update_service_of_not_device _ _ _ _ (by simp [hfw])]
      cases req.headers.text? userAgentHeader <;> rfl
  · by_cases hl : req.path = "/log"
    · simp [hl, log, record]
    · simp [hu, hl, unknown, recorded]

/-- A request leaves no line exactly when it goes to the update path with neither both of a
device's headers nor a browser's. -/
theorem visitNote_eq_none_iff (s : Service) (req : Http.Request) :
    s.visitNote req = none ↔ req.path = "/update" ∧
      (req.headers.text? fwVersionHeader = none ∨ req.headers.text? deviceIdHeader = none) ∧
      req.headers.text? userAgentHeader = none := by
  unfold visitNote
  by_cases hu : req.path = "/update"
  · simp only [hu, if_true, true_and]
    cases req.headers.text? fwVersionHeader <;> cases req.headers.text? deviceIdHeader <;> simp
  · by_cases hl : req.path = "/log" <;> simp [hu, hl]

/-- A request that leaves no line is answered `404`. -/
theorem answer_status_of_visitNote_eq_none {s : Service} {req : Http.Request} (now : Instant)
    (h : s.visitNote req = none) : (s.answer req now).response.status = .notFound := by
  obtain ⟨hu, hdev, hua⟩ := (visitNote_eq_none_iff s req).1 h
  have hupdate : ∀ client, s.update client req.headers now = ⟨s, notFound, []⟩ := by
    intro client
    rcases hdev with hfw | hid
    · simp [update, hfw, hua]
    · simp [update, hid, hua]
  unfold answer
  cases req.method.isHead <;> simp [hu, hupdate, notFound, Http.Response.withoutBody]

end Service

/-- Answering a request keys its line by the client's identity: the decoded value of the proxy
header when it is configured, present and not empty, and otherwise the peer's address, or
`unknown`. The service after it differs only in its history, where the request's line, if it
leaves one, is appended to that client's log and every other log is left alone. Only a request to
the update path with neither both of a device's headers nor a browser's leaves no line, and it is
answered `404`. -/
theorem answer_history (s : Service) (req : Http.Request) (now : Instant) :
    let a := s.answer req now
    let cid := clientIdentity req.headers req.peer s.realIpHeader
    ((∀ name v, s.realIpHeader = some name → req.headers.get? name = some v → v.bytes ≠ [] →
        cid = Text.decodeLossy v.bytes) ∧
      ((∀ name v, s.realIpHeader = some name → req.headers.get? name = some v → v.bytes = []) →
        cid = (req.peer.map (·.ip.text)).getD unknownClient)) ∧
    a.service = { s with
      history :=
        match s.visitNote req with
        | some m => s.history.appendAt cid m now
        | none => s.history } ∧
    (∀ c, c ≠ cid → a.service.history.render c = s.history.render c) ∧
    a.service.history.render cid = s.history.render cid ++ (s.visitNote req).toList.map (⟨now, ·⟩) ∧
    (s.visitNote req = none ↔ req.path = "/update" ∧
      (req.headers.text? fwVersionHeader = none ∨ req.headers.text? deviceIdHeader = none) ∧
      req.headers.text? userAgentHeader = none) ∧
    (s.visitNote req = none → a.response.status = .notFound) := by
  intro a cid
  have hservice : a.service = { s with
      history :=
        match s.visitNote req with
        | some m => s.history.appendAt cid m now
        | none => s.history } := by
    simp only [a, Service.answer_service]
    cases s.visitNote req <;> rfl
  -- every log but the client's is read through the same store
  have hrender : ∀ c, a.service.history.render c =
      if cid = c then s.history.render c ++ (s.visitNote req).toList.map (⟨now, ·⟩)
      else s.history.render c := by
    intro c
    rw [hservice]
    cases s.visitNote req with
    | none => simp
    | some m => simp [LogStore.render_appendAt]
  refine ⟨⟨fun name v hname hv hne => clientIdentity_of_header hname hv hne,
    clientIdentity_of_no_header⟩, hservice, fun c hc => ?_, by simp [hrender],
    Service.visitNote_eq_none_iff s req, Service.answer_status_of_visitNote_eq_none now⟩
  simp [hrender, Ne.symm hc]

/-- A request to the update path with no headers at all is answered `404` and recorded nowhere. -/
example : let s : Service := ⟨.empty, ⟨"https://cdn/%s.bin", by decide⟩, none, .empty⟩
    let a := s.answer { path := "/update" } ⟨0, 0⟩
    a.response.status = .notFound ∧ a.service.history.clientCount = 0 := by
  cbv

end FirmwareRedirect
