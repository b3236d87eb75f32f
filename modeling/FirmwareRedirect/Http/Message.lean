import FirmwareRedirect.Http.Header
import FirmwareRedirect.Net.Address
/-!
# Requests and responses

A request has a method, the path of its target, its header fields and, when known, the socket
address of the peer that sent it. A method is a non-empty token and is case-sensitive; only
`HEAD` is treated apart, since its response carries no body.

A response has a status, header fields and a body of text. Its `content-length` is the length of
the body in bytes, also when the body is left out of the answer to a `HEAD` request.
-/

namespace FirmwareRedirect.Http

/-- A request method. -/
structure Method where
  name : String
  deriving DecidableEq, Repr

/-- Read a method: a non-empty token. -/
def Method.parse? (s : String) : Option Method :=
  if !s.isEmpty && s.toList.all isTokenChar then some ⟨s⟩ else none

/-- Why a method was refused. -/
def invalidMethod : String := "invalid HTTP method"

/-- The method used when none is given. -/
def Method.get : Method := ⟨"GET"⟩

/-- Whether the method asks for the header fields only. -/
def Method.isHead (m : Method) : Bool := m.name == "HEAD"

/-- A request as the service sees it. -/
structure Request where
  method : Method := .get
  path : String
  headers : Headers := []
  peer : Option Net.SocketAddr := none

/-- The statuses the service answers with. -/
inductive Status where
  | ok
  | found
  | badRequest
  | notFound
  | internalError
  deriving DecidableEq, Repr

/-- The numeric code of a status. -/
def Status.code : Status → Nat
  | .ok => 200
  | .found => 302
  | .badRequest => 400
  | .notFound => 404
  | .internalError => 500

/-- A response: status, header fields sorted by name, and body. -/
structure Response where
  status : Status
  headers : List (String × String)
  body : String
  deriving DecidableEq, Repr

/-- Plain text, as a content type. -/
def plainText : String := "text/plain; charset=utf-8"

/-- HTML, as a content type. -/
def htmlText : String := "text/html; charset=\"UTF-8\""

/-- A response with a content type and any further header fields; `content-length` is added
and the fields are sorted by name. -/
def Response.make (status : Status) (contentType : String) (body : String)
    (extra : List (String × String)) : Response :=
  let fields := ("content-length", toString body.utf8ByteSize) :: ("content-type", contentType) :: extra
  ⟨status, fields.mergeSort (fun a b => a.1 ≤ b.1), body⟩

@[simp] theorem Response.make_status (status : Status) (contentType body : String)
    (extra : List (String × String)) : (Response.make status contentType body extra).status = status :=
  rfl

@[simp] theorem Response.make_body (status : Status) (contentType body : String)
    (extra : List (String × String)) : (Response.make status contentType body extra).body = body :=
  rfl

/-- The fields of a made response are its length, its content type and the extra fields. -/
theorem Response.mem_make_headers {status : Status} {contentType body : String}
    {extra : List (String × String)} {field : String × String} :
    field ∈ (Response.make status contentType body extra).headers ↔
      field = ("content-length", toString body.utf8ByteSize) ∨
        field = ("content-type", contentType) ∨ field ∈ extra := by
  simp [Response.make, List.mem_mergeSort]

/-- A made response without extra fields has no location. -/
theorem Response.location_not_mem_make {status : Status} {contentType body : String}
    (v : String) : ("location", v) ∉ (Response.make status contentType body []).headers := by
  simp [Response.mem_make_headers]

/-- The response to a `HEAD` request: the same fields, no body. -/
def Response.withoutBody (r : Response) : Response := { r with body := "" }

end FirmwareRedirect.Http
