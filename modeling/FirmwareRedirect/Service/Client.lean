import FirmwareRedirect.Http.Message
/-!
# Client identity

History is kept per client. Behind a proxy the client is named by a header the proxy sets,
such as `X-Real-IP`; the header wins when it is configured, present and not empty. Otherwise
the client is the IP address of the peer, without its port or scope, and `unknown` when even
that is not known.
-/

namespace FirmwareRedirect

/-- The identity used when neither the proxy header nor the peer is known. -/
def unknownClient : String := "unknown"

/-- The identity of the client that sent a request. -/
def clientIdentity (headers : Http.Headers) (peer : Option Net.SocketAddr)
    (realIpHeader : Option String) : String :=
  match realIpHeader.bind headers.text? with
  | some ip => ip
  | none =>
    match peer with
    | some addr => addr.ip.text
    | none => unknownClient

/-- A proxy header that is configured, present and not empty names the client, decoded. -/
theorem clientIdentity_of_header {headers : Http.Headers} {peer : Option Net.SocketAddr}
    {realIpHeader : Option String} {name : String} {v : Http.HeaderValue}
    (hname : realIpHeader = some name) (hv : headers.get? name = some v) (hne : v.bytes ≠ []) :
    clientIdentity headers peer realIpHeader = Text.decodeLossy v.bytes := by
  simp [clientIdentity, hname, Http.Headers.text?, hv, hne]

/-- Without a usable proxy header, the peer's address names the client, and `unknown` stands in
for a peer that is not known. -/
theorem clientIdentity_of_no_header {headers : Http.Headers} {peer : Option Net.SocketAddr}
    {realIpHeader : Option String}
    (hno : ∀ name v, realIpHeader = some name → headers.get? name = some v → v.bytes = []) :
    clientIdentity headers peer realIpHeader = (peer.map (·.ip.text)).getD unknownClient := by
  have hnone : realIpHeader.bind headers.text? = none := by
    cases realIpHeader with
    | none => rfl
    | some name =>
      cases hv : headers.get? name with
      | none => simp [Http.Headers.text?, hv]
      | some v => simp [Http.Headers.text?, hv, hno name v rfl hv]
  unfold clientIdentity
  rw [hnone]
  cases peer <;> rfl

end FirmwareRedirect
