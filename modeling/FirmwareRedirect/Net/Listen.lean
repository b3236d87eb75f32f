import FirmwareRedirect.Net.Address
/-!
# Listen addresses

The address to serve on is a socket address, or a host name and a port separated by the last
colon; a host name still has to be looked up. Text with no colon at all is not an address, and
a port must be a decimal below 65536, an optional `+` allowed.
-/

namespace FirmwareRedirect.Net

/-- Where to listen: a socket address, or a host name to look up and a port. -/
inductive ListenTarget where
  | socket (addr : SocketAddr)
  | host (name : String) (port : UInt16)
  deriving DecidableEq, Repr

/-- Whether an address can be bound on a machine whose only interface is the loopback one: a
loopback address or the unspecified one. -/
def IpAddr.isLocal : IpAddr → Bool
  | .v4 a => a.a = 127 || (a.a = 0 && a.b = 0 && a.c = 0 && a.d = 0)
  | .v6 a =>
    let g := a.groups.toList
    g == [0, 0, 0, 0, 0, 0, 0, 1] || g == [0, 0, 0, 0, 0, 0, 0, 0]

/-- Read a port: decimal digits after an optional `+`, below 65536. -/
def parsePort? (s : String) : Option UInt16 :=
  let ds := match s.toList with
    | '+' :: rest => rest
    | cs => cs
  if !ds.isEmpty && ds.all Char.isDigit then
    let v := (String.ofList ds).toNat?.getD 65536
    if v < 65536 then some v.toUInt16 else none
  else none

/-- Read a listen address, or give the reason it is not one. -/
def ListenTarget.parse (s : String) : Except String ListenTarget :=
  match SocketAddr.parse? s with
  | some a => .ok (.socket a)
  | none =>
    let cs := s.toList
    match cs.reverse.idxOf? ':' with
    | none => .error "invalid socket address"
    | some k =>
      let host := String.ofList (cs.take (cs.length - 1 - k))
      let port := String.ofList (cs.drop (cs.length - k))
      match parsePort? port with
      | some p => .ok (.host host p)
      | none => .error "invalid port value"

end FirmwareRedirect.Net
