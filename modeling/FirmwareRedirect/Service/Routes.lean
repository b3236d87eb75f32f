import FirmwareRedirect.Service.Client
import FirmwareRedirect.Models.Resolve
import FirmwareRedirect.Config.Template
import FirmwareRedirect.History.Page
import FirmwareRedirect.Config.Settings
import FirmwareRedirect.Logging.Record
/-!
# The routes of the redirect service

The service answers every method on two paths, matched exactly and with case:

* `/update`: a device that sends its firmware version and device ID is redirected to the
  download of its model, or told `404` when it cannot be resolved. Without those headers, a
  caller with a `User-Agent` is a browser and gets a short page of instructions; anyone else
  gets `404`.
* `/log`: the caller's history as an HTML page, after recording the visit itself.

Every other path is `404`. Each answer that concerns a client is recorded in its history with
the time of the request, and logged. A device of unknown model is also reported with a warning.
-/

namespace FirmwareRedirect

/-- The header in which a device sends its firmware version. -/
def fwVersionHeader : String := "X-MGOS-FW-Version"

/-- The header in which a device sends its device ID. -/
def deviceIdHeader : String := "X-MGOS-Device-ID"

/-- The header in which a browser names itself. -/
def userAgentHeader : String := "user-agent"

/-- The page shown to a browser on the update path. -/
def indexPage : String :=
  "Please follow instructions <a href='https://github.com/mongoose-os-apps/shelly-homekit/'>here</a>.\n"

/-- The state of the service: its configuration and the history it has recorded. -/
structure Service where
  models : ModelTable
  redirect : RedirectTemplate
  realIpHeader : Option String
  history : LogStore := .empty

namespace Service

/-- A service with no history yet, for the given settings, model table and redirect. -/
def start (settings : Settings) (models : ModelTable) (redirect : RedirectTemplate) : Service :=
  ⟨models, redirect, settings.realIpHeader?, .empty⟩

/-- Record a message in a client's history. -/
def record (s : Service) (client message : String) (now : Instant) : Service :=
  { s with history := s.history.appendAt client message now }

/-- The log record of a message recorded in a client's history. -/
def historyNote (client message : String) : Logging.Record :=
  ⟨.info, Logging.historyTarget, client ++ ": " ++ message⟩

/-- What answering a request gives: the service after it, the response, and the records logged
on the way. -/
structure Answer where
  service : Service
  response : Http.Response
  records : List Logging.Record

/-- The answer that records a message in the client's history. -/
def recorded (s : Service) (client message : String) (now : Instant) (response : Http.Response) :
    Answer :=
  ⟨s.record client message now, response, [historyNote client message]⟩

/-- The answer for a path that is not served, or a device that cannot be resolved. -/
def notFound : Http.Response := .make .notFound Http.plainText "Not Found\n" []

/-- The redirect to a download. A location that cannot be a header value makes the answer a
server error instead. -/
def redirectTo (url : String) : Http.Response :=
  match Http.HeaderValue.parse? url.toUTF8.toList with
  | some _ =>
    .make .found Http.plainText ("You are being taken to " ++ url ++ "\n") [("location", url)]
  | none => .make .internalError Http.plainText Http.invalidHeaderValue []

/-- A device asking for its firmware. A device of unknown model is warned about first. -/
def firmware (s : Service) (client fw id : String) (now : Instant) : Answer :=
  let asked := "firmware request: " ++ Text.quote fw ++ " " ++ Text.quote id ++ " -> "
  match s.models.resolve fw id with
  | .ok model =>
    let url := s.redirect.render model
    s.recorded client (asked ++ url) now (redirectTo url)
  | .error e =>
    let a := s.recorded client (asked ++ e.message) now notFound
    match e with
    | .unknownModel _ =>
      { a with records := ⟨.warn, Logging.modelsTarget, unknownModelNote fw id⟩ :: a.records }
    | _ => a

/-- The update path. -/
def update (s : Service) (client : String) (headers : Http.Headers) (now : Instant) : Answer :=
  match headers.text? fwVersionHeader, headers.text? deviceIdHeader with
  | some fw, some id => s.firmware client fw id now
  | _, _ =>
    match headers.text? userAgentHeader with
    | some agent =>
      s.recorded client ("index request from " ++ Text.quote agent) now
        (.make .ok Http.htmlText indexPage [])
    | none => ⟨s, notFound, []⟩

/-- The history path: the visit is recorded first, so the page shows it. -/
def log (s : Service) (client : String) (now : Instant) : Answer :=
  let visit := "log request"
  let s := s.record client visit now
  ⟨s, .make .ok Http.htmlText (historyPage client (s.history.render client) now) [],
    [historyNote client visit]⟩

/-- Any other path. -/
def unknown (s : Service) (client path : String) (now : Instant) : Answer :=
  s.recorded client ("unknown request " ++ Text.quote path) now notFound

/-- Answer a request received at `now`, with the records logged on the way. A `HEAD` request
gets the answer of a `GET` without its body. -/
def answer (s : Service) (req : Http.Request) (now : Instant) : Answer :=
  let client := clientIdentity req.headers req.peer s.realIpHeader
  let a :=
    if req.path = "/update" then s.update client req.headers now
    else if req.path = "/log" then s.log client now
    else s.unknown client req.path now
  if req.method.isHead then { a with response := a.response.withoutBody } else a

/-- Drop the history older than the retention at `now`, with a record of how many entries went
when any did. -/
def sweep (s : Service) (retention : Age) (now : Instant) : Service × List Logging.Record :=
  let (history, removed) := s.history.pruneAt retention now
  ({ s with history },
    if removed > 0 then
      [⟨.debug, Logging.sweeperTarget, "Pruned " ++ toString removed ++ " log entries, " ++
        toString history.clientCount ++ " clients remain"⟩]
    else [])

/-- Answer a request received at `now`: the service after it and the response. -/
def handle (s : Service) (req : Http.Request) (now : Instant) : Service × Http.Response :=
  let a := s.answer req now
  (a.service, a.response)

end Service

end FirmwareRedirect
