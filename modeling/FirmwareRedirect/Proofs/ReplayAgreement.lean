import FirmwareRedirect.AccessLog
import FirmwareRedirect.Proofs.DeviceAnswer
/-!
# Replaying a log agrees with the server

The front proxy logs each device's request to the update path with the firmware version and the
device ID as the last two quoted fields of the line. When neither holds a double quote or ends in
a space, replaying the line reads back exactly the values the device sent, so the replay counts
the line as unsupported exactly when the server would refuse the request with `404`.

Main statement: `replay_agrees_with_server`, for every model table, template and service state,
every line the proxy writes and every list of logged requests.
-/

namespace FirmwareRedirect

open AccessLog

/-- A device's request to the update path as the front proxy logs it: the text before the quoted
fields, the firmware version and device ID, and the request. The version and ID are not empty,
hold no double quote and do not end in a space, and the request carries their bytes as its
device headers. -/
structure ProxyVisit where
  pre : String
  fw : String
  id : String
  request : Http.Request
  fw_ne : fw ≠ ""
  id_ne : id ≠ ""
  fw_quote : '"' ∉ fw.toList
  fw_last : fw.toList.getLast? ≠ some ' '
  id_quote : '"' ∉ id.toList
  id_last : id.toList.getLast? ≠ some ' '
  path_eq : request.path = "/update"
  fw_header : request.headers.get? fwVersionHeader = some ⟨fw.toUTF8.toList⟩
  id_header : request.headers.get? deviceIdHeader = some ⟨id.toUTF8.toList⟩

namespace ProxyVisit

/-- The line the proxy logs for a visit. -/
def line (v : ProxyVisit) : String := proxyLine v.pre v.fw v.id

/-- The `GET` request a device sends with only its two headers, as the proxy logs it. -/
def ofDevice (pre fw id : String) (hfw : fw ≠ "") (hid : id ≠ "") (hfq : '"' ∉ fw.toList)
    (hfs : fw.toList.getLast? ≠ some ' ') (hiq : '"' ∉ id.toList)
    (his : id.toList.getLast? ≠ some ' ') : ProxyVisit :=
  ⟨pre, fw, id, { path := "/update", headers := deviceHeaders fw id }, hfw, hid, hfq, hfs, hiq, his,
    rfl, (deviceHeaders_get? fw id).1, (deviceHeaders_get? fw id).2⟩

/-- The server reads a visit's request as the version and ID that were logged. -/
theorem request_text? (v : ProxyVisit) :
    v.request.headers.text? fwVersionHeader = some v.fw ∧
      v.request.headers.text? deviceIdHeader = some v.id :=
  ⟨Http.Headers.text?_of_get? v.fw_header v.fw_ne, Http.Headers.text?_of_get? v.id_header v.id_ne⟩

/-- A visit's line is unsupported exactly when the server refuses its request. -/
theorem unsupported_judge (s : Service) (now : Instant) (v : ProxyVisit) :
    (judge s.models v.line).unsupported =
      ((s.answer v.request now).response.status == .notFound) := by
  have hstatus : (s.answer v.request now).response.status = .notFound ↔
      (s.models.resolve v.fw v.id).isOk = false :=
    Service.answer_status_eq_notFound_iff now v.path_eq v.request_text?.1 v.request_text?.2
  rw [line, judge_proxyLine s.models v.pre v.fw_quote v.fw_last v.id_quote v.id_last]
  cases hres : s.models.resolve v.fw v.id with
  | ok model =>
    have : (s.answer v.request now).response.status ≠ .notFound := by
      simp [hstatus, hres, Except.isOk, Except.toBool]
    simp [Verdict.unsupported, this]
  | error e =>
    have : (s.answer v.request now).response.status = .notFound := by
      simp [hstatus, hres, Except.isOk, Except.toBool]
    simp [Verdict.unsupported, this]

end ProxyVisit

/-- The line the proxy writes reads back as the version and ID it holds, and replaying it counts
one line, unsupported exactly when the device does not resolve. For a request that carries the
version and ID as its device headers, that is exactly when the server answers `404`; so over any
list of logged requests the replay's unsupported count is the number the server refuses. -/
theorem replay_agrees_with_server (s : Service) (now : Instant) :
    (∀ pre fw id : String, '"' ∉ fw.toList → fw.toList.getLast? ≠ some ' ' →
      '"' ∉ id.toList → id.toList.getLast? ≠ some ' ' →
      request? (proxyLine pre fw id) = some (fw, id) ∧
        replayLines s.models [proxyLine pre fw id] =
          ⟨1, if (s.models.resolve fw id).isOk then 0 else 1⟩) ∧
    (∀ v : ProxyVisit, (replayLines s.models [v.line]).unsupported = 1 ↔
      (s.answer v.request now).response.status = .notFound) ∧
    (∀ visits : List ProxyVisit, replayLines s.models (visits.map ProxyVisit.line) =
      ⟨visits.length, visits.countP fun v => (s.answer v.request now).response.status == .notFound⟩) := by
  -- every logged line counts, and is unsupported exactly when its request is refused
  have hlist : ∀ visits : List ProxyVisit, replayLines s.models (visits.map ProxyVisit.line) =
      ⟨visits.length,
        visits.countP fun v => (s.answer v.request now).response.status == .notFound⟩ := by
    intro visits
    rw [replayLines, summarize_eq, List.map_map, List.countP_map, List.countP_map]
    congr 1
    · rw [List.countP_eq_length]
      intro v _
      simp [ProxyVisit.line, judge_eq_blank_iff, isBlank_proxyLine]
    · exact List.countP_congr fun v _ => by
        show (judge s.models v.line).unsupported = true ↔ _
        rw [ProxyVisit.unsupported_judge s now v]
  refine ⟨fun pre fw id hfq hfs hiq his => ⟨request?_proxyLine pre hfq hfs hiq his, ?_⟩,
    fun v => ?_, hlist⟩
  · rw [replayLines, summarize_eq, List.map_singleton,
      judge_proxyLine s.models pre hfq hfs hiq his]
    cases s.models.resolve fw id <;> rfl
  · rw [show [v.line] = [v].map ProxyVisit.line from rfl, hlist]
    cases h : (s.answer v.request now).response.status <;> simp [h]

end FirmwareRedirect
