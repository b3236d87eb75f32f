import Mathlib
import FirmwareRedirect.Proofs.RequestHistory
/-!
# What a device is answered

A device asks the update path for its firmware with its version and its device ID in two headers.
When the ID resolves to a model, the device is redirected (`302 Found`) to the model's URL, which
the body names too. When it does not, the answer is `404 Not Found`. Either way the device's
history records the URL or the reason.

Two things stand between the resolved model and the redirect. A `HEAD` request gets the fields of
the answer without its body. And the URL goes into the `location` field, so a URL that cannot be a
header value (one holding a line feed, say, from a model name or a template) makes the answer a
server error (`500`) with no location; the history still records the URL.

Main statement: `answer_firmware`, for every service, instant and request to the update path that
names a device.
-/

namespace FirmwareRedirect

namespace Service

/-- A request to the update path is answered by the update route, without the body for `HEAD`. -/
theorem answer_of_update {s : Service} {req : Http.Request} (now : Instant)
    (hpath : req.path = "/update") :
    s.answer req now =
      let a := s.update (clientIdentity req.headers req.peer s.realIpHeader) req.headers now
      if req.method.isHead then { a with response := a.response.withoutBody } else a := by
  simp [answer, hpath]

/-- A request naming a device is a firmware request. -/
theorem update_of_device {s : Service} {client : String} {hs : Http.Headers} {fw id : String}
    (now : Instant) (hfw : hs.text? fwVersionHeader = some fw)
    (hid : hs.text? deviceIdHeader = some id) :
    s.update client hs now = s.firmware client fw id now := by
  simp [update, hfw, hid]

/-- A request to the update path naming a device gets the firmware route's service, status and
fields; only the body of a `HEAD` answer is dropped. -/
theorem answer_of_device (s : Service) {req : Http.Request} (now : Instant) {fw id : String}
    (hpath : req.path = "/update") (hfw : req.headers.text? fwVersionHeader = some fw)
    (hid : req.headers.text? deviceIdHeader = some id) :
    let f := s.firmware (clientIdentity req.headers req.peer s.realIpHeader) fw id now
    (s.answer req now).service = f.service ∧
      (s.answer req now).response.status = f.response.status ∧
      (s.answer req now).response.headers = f.response.headers ∧
      (s.answer req now).response.body = if req.method.isHead then "" else f.response.body := by
  intro f
  rw [answer_of_update now hpath, update_of_device now hfw hid]
  cases req.method.isHead <;> simp [f, Http.Response.withoutBody]

/-- A device that resolves is sent to its model's URL, and the URL is recorded. -/
theorem firmware_of_ok {s : Service} {client fw id model : String} (now : Instant)
    (h : s.models.resolve fw id = .ok model) :
    s.firmware client fw id now =
      s.recorded client ("firmware request: " ++ Text.quote fw ++ " " ++ Text.quote id ++ " -> " ++
        s.redirect.render model) now (redirectTo (s.redirect.render model)) := by
  simp [firmware, h]

/-- A device that does not resolve is told `404`, and the reason is recorded; only the records
logged on the way depend on the reason. -/
theorem firmware_of_error {s : Service} {client fw id : String} {e : ResolveError} (now : Instant)
    (h : s.models.resolve fw id = .error e) :
    (s.firmware client fw id now).service =
        s.record client ("firmware request: " ++ Text.quote fw ++ " " ++ Text.quote id ++ " -> " ++
          e.message) now ∧
      (s.firmware client fw id now).response = notFound := by
  unfold firmware
  rw [h]
  cases e <;> exact ⟨rfl, rfl⟩

/-- A URL that can be a header value is a redirect to it. -/
theorem redirectTo_of_valid {url : String}
    (h : (Http.HeaderValue.parse? url.toUTF8.toList).isSome) :
    redirectTo url =
      .make .found Http.plainText ("You are being taken to " ++ url ++ "\n") [("location", url)] := by
  unfold redirectTo
  split
  · rfl
  · simp_all

/-- A URL that cannot be a header value is a server error. -/
theorem redirectTo_of_invalid {url : String}
    (h : (Http.HeaderValue.parse? url.toUTF8.toList).isNone) :
    redirectTo url = .make .internalError Http.plainText Http.invalidHeaderValue [] := by
  unfold redirectTo
  split
  · simp_all
  · rfl

end Service

/-- The two headers a device sends, holding the UTF-8 bytes of its version and ID. -/
def deviceHeaders (fw id : String) : Http.Headers :=
  [(⟨"x-mgos-fw-version"⟩, ⟨fw.toUTF8.toList⟩), (⟨"x-mgos-device-id"⟩, ⟨id.toUTF8.toList⟩)]

/-- A device's headers hold the bytes of its version and ID under their names. -/
theorem deviceHeaders_get? (fw id : String) :
    (deviceHeaders fw id).get? fwVersionHeader = some ⟨fw.toUTF8.toList⟩ ∧
      (deviceHeaders fw id).get? deviceIdHeader = some ⟨id.toUTF8.toList⟩ := by
  have hn1 : Http.HeaderName.parse? fwVersionHeader = some ⟨"x-mgos-fw-version"⟩ := by cbv
  have hn2 : Http.HeaderName.parse? deviceIdHeader = some ⟨"x-mgos-device-id"⟩ := by cbv
  constructor
  · simp [Http.Headers.get?, deviceHeaders, hn1]
  · simp [Http.Headers.get?, deviceHeaders, hn2]

/-- A device's headers read back as its version and ID when neither is empty. -/
theorem deviceHeaders_text? (fw id : String) (hfw : fw ≠ "") (hid : id ≠ "") :
    (deviceHeaders fw id).text? fwVersionHeader = some fw ∧
      (deviceHeaders fw id).text? deviceIdHeader = some id :=
  ⟨Http.Headers.text?_of_get? (deviceHeaders_get? fw id).1 hfw,
    Http.Headers.text?_of_get? (deviceHeaders_get? fw id).2 hid⟩

/-- A request naming a device is told `404` exactly when the device does not resolve: a resolved
device gets a redirect or, for a URL that cannot be a header value, a server error. -/
theorem Service.answer_status_eq_notFound_iff {s : Service} {req : Http.Request} (now : Instant)
    {fw id : String} (hpath : req.path = "/update")
    (hfw : req.headers.text? fwVersionHeader = some fw)
    (hid : req.headers.text? deviceIdHeader = some id) :
    (s.answer req now).response.status = .notFound ↔ (s.models.resolve fw id).isOk = false := by
  rw [(s.answer_of_device now hpath hfw hid).2.1]
  cases hres : s.models.resolve fw id with
  | ok model =>
    rw [Service.firmware_of_ok now hres]
    cases hv : (Http.HeaderValue.parse? (s.redirect.render model).toUTF8.toList).isSome
    · rw [Service.redirectTo_of_invalid (by simpa using hv)]
      simp [Service.recorded, Except.isOk, Except.toBool]
    · rw [Service.redirectTo_of_valid hv]
      simp [Service.recorded, Except.isOk, Except.toBool]
  | error e =>
    rw [(Service.firmware_of_error now hres).2]
    simp [Service.notFound, Except.isOk, Except.toBool]

/-- A request to the update path that names a device is answered from the resolution of its
version and ID. A model found is a redirect to its URL, with the URL in the body, when the URL can
be a header value, and a server error without a location when it cannot; a device that does not
resolve is told `404 Not Found`. A `HEAD` request gets no body. The device's history records the
URL, or the reason there is none. -/
theorem answer_firmware (s : Service) (req : Http.Request) (now : Instant) {fw id : String}
    (hpath : req.path = "/update") (hfw : req.headers.text? fwVersionHeader = some fw)
    (hid : req.headers.text? deviceIdHeader = some id) :
    let a := s.answer req now
    let cid := clientIdentity req.headers req.peer s.realIpHeader
    let asked := "firmware request: " ++ Text.quote fw ++ " " ++ Text.quote id ++ " -> "
    let sent (body : String) := if req.method.isHead then "" else body
    (∀ model, s.models.resolve fw id = .ok model →
      let url := s.redirect.render model
      a.service = s.record cid (asked ++ url) now ∧
      ((Http.HeaderValue.parse? url.toUTF8.toList).isSome →
        a.response.status = .found ∧ ("location", url) ∈ a.response.headers ∧
          a.response.body = sent ("You are being taken to " ++ url ++ "\n")) ∧
      ((Http.HeaderValue.parse? url.toUTF8.toList).isNone →
        a.response.status = .internalError ∧ (∀ v, ("location", v) ∉ a.response.headers) ∧
          a.response.body = sent Http.invalidHeaderValue)) ∧
    (∀ e, s.models.resolve fw id = .error e →
      a.service = s.record cid (asked ++ e.message) now ∧
      a.response.status = .notFound ∧ (∀ v, ("location", v) ∉ a.response.headers) ∧
        a.response.body = sent "Not Found\n") := by
  intro a cid asked sent
  obtain ⟨hsvc, hstatus, hfields, hbody⟩ : a.service = (s.firmware cid fw id now).service ∧
      a.response.status = (s.firmware cid fw id now).response.status ∧
      a.response.headers = (s.firmware cid fw id now).response.headers ∧
      a.response.body = sent (s.firmware cid fw id now).response.body :=
    s.answer_of_device now hpath hfw hid
  refine ⟨fun model hok => ?_, fun e herr => ?_⟩
  · have hf : s.firmware cid fw id now = _ := Service.firmware_of_ok now hok
    refine ⟨by rw [hsvc, hf]; rfl, fun hvalid => ?_, fun hinvalid => ?_⟩
    · rw [hstatus, hfields, hbody, hf]
      simp [Service.recorded, Service.redirectTo_of_valid hvalid, Http.Response.mem_make_headers]
    · rw [hstatus, hfields, hbody, hf]
      simp [Service.recorded, Service.redirectTo_of_invalid hinvalid,
        Http.Response.location_not_mem_make]
  · obtain ⟨hfs, hfr⟩ : (s.firmware cid fw id now).service = _ ∧ _ :=
      Service.firmware_of_error now herr
    rw [hsvc, hstatus, hfields, hbody, hfs, hfr]
    simp [asked, Service.notFound, Http.Response.location_not_mem_make]

/-- A known device asking with `GET` is redirected to its model's download. -/
theorem answer_firmware_known_device :
    let s : Service :=
      ⟨ModelTable.empty.insert "SHSW-25" "ShellyHT", ⟨"https://cdn/%s.bin", by decide⟩, none, .empty⟩
    let req : Http.Request :=
      { path := "/update", headers := deviceHeaders "1.2.3" "SHSW-25#ABC 192.168.1.5" }
    req.path = "/update" ∧ req.headers.text? fwVersionHeader = some "1.2.3" ∧
      req.headers.text? deviceIdHeader = some "SHSW-25#ABC 192.168.1.5" ∧
      (s.answer req ⟨0, 0⟩).response.status = .found ∧
      ("location", "https://cdn/ShellyHT.bin") ∈ (s.answer req ⟨0, 0⟩).response.headers ∧
      (s.answer req ⟨0, 0⟩).response.body = "You are being taken to https://cdn/ShellyHT.bin\n" := by
  intro s req
  have hpath : req.path = "/update" := rfl
  obtain ⟨hfw, hid⟩ := deviceHeaders_text? "1.2.3" "SHSW-25#ABC 192.168.1.5"
    (by decide) (by decide)
  have hres : s.models.resolve "1.2.3" "SHSW-25#ABC 192.168.1.5" = .ok "ShellyHT" := by rfl
  have hurl : s.redirect.render "ShellyHT" = "https://cdn/ShellyHT.bin" := by decide
  have hvalid : (Http.HeaderValue.parse? (s.redirect.render "ShellyHT").toUTF8.toList).isSome := by
    rw [hurl, String.toUTF8_eq_toByteArray, Text.toByteArray_toList]
    decide
  obtain ⟨-, hfound, -⟩ := (answer_firmware s req ⟨0, 0⟩ hpath hfw hid).1 "ShellyHT" hres
  obtain ⟨hstatus, hloc, hbody⟩ := hfound hvalid
  rw [hurl] at hloc hbody
  exact ⟨hpath, hfw, hid, hstatus, hloc, hbody⟩

/-- A resolved device does not always get a redirect with that body: a `HEAD` request gets no
body, and a model whose URL holds a line feed is a server error. -/
theorem answer_firmware_head_or_bad_url :
    let s : Service :=
      ⟨(ModelTable.empty.insert "SHSW" "Shelly1").insert "SHBAD" "a\nb",
        ⟨"https://cdn/%s.bin", by decide⟩, none, .empty⟩
    let head : Http.Request :=
      { method := ⟨"HEAD"⟩, path := "/update", headers := deviceHeaders "1.0" "SHSW-1#A 1" }
    let bad : Http.Request := { path := "/update", headers := deviceHeaders "1.0" "SHBAD-1#A 1" }
    s.models.resolve "1.0" "SHSW-1#A 1" = .ok "Shelly1" ∧
      (s.answer head ⟨0, 0⟩).response.body = "" ∧
      s.models.resolve "1.0" "SHBAD-1#A 1" = .ok "a\nb" ∧
      (s.answer bad ⟨0, 0⟩).response.status = .internalError := by
  intro s head bad
  have hres1 : s.models.resolve "1.0" "SHSW-1#A 1" = .ok "Shelly1" := by rfl
  have hres2 : s.models.resolve "1.0" "SHBAD-1#A 1" = .ok "a\nb" := by rfl
  obtain ⟨hfw1, hid1⟩ := deviceHeaders_text? "1.0" "SHSW-1#A 1" (by decide) (by decide)
  obtain ⟨hfw2, hid2⟩ := deviceHeaders_text? "1.0" "SHBAD-1#A 1" (by decide) (by decide)
  -- the line feed of the model is a byte no header value may hold
  have hinvalid :
      (Http.HeaderValue.parse? (s.redirect.render "a\nb").toUTF8.toList).isNone := by
    have hurl : s.redirect.render "a\nb" = "https://cdn/a\nb.bin" := by decide
    rw [hurl, String.toUTF8_eq_toByteArray, Text.toByteArray_toList]
    decide
  refine ⟨hres1, ?_, hres2, ?_⟩
  · rw [(s.answer_of_device _ rfl hfw1 hid1).2.2.2]
    rfl
  · have hget : bad.method.isHead = false := rfl
    rw [Service.answer_of_update _ rfl, Service.update_of_device _ hfw2 hid2,
      Service.firmware_of_ok _ hres2]
    simp [hget, Service.recorded, Service.redirectTo_of_invalid hinvalid]

end FirmwareRedirect
