import FirmwareRedirect.Program.Run
import FirmwareRedirect.Http.Wire
import FirmwareRedirect.Net.Listen
import Std.Async.TCP
import Std.Async.Signal
import Std.Async.DNS
import Std.Async.Timer
import Std.Async.Select
/-!
# The command line

Runs the program against the system: files, environment variables, the clock, a listening
socket, and the stop signals `SIGINT` and `SIGTERM`. While serving, every connection is read
request by request, each request is answered by the service, and the history is swept every
half retention period.
-/

namespace FirmwareRedirect.Cli.System

open Std.Async Program

/-- The time now. -/
def now : IO Instant := do
  let t ← Std.Time.Timestamp.now
  let ns : Int := t.toNanosecondsSinceUnixEpoch.val
  pure ⟨ns / 1000000000, (ns % 1000000000).toNat⟩

/-- An error code as the system numbers it: some reports give it negated. -/
def errorCode (c : UInt32) : Nat :=
  if c.toNat ≥ Nat.pow 2 31 then Nat.pow 2 32 - c.toNat else c.toNat

/-- The code and description of an error reported by the system. -/
def systemError? : IO.Error → Option (Nat × String)
  | .alreadyExists _ c d | .otherError c d | .resourceBusy c d | .resourceVanished c d
  | .unsupportedOperation c d | .hardwareFault c d | .unsatisfiedConstraints c d
  | .illegalOperation c d | .protocolError c d | .timeExpired c d | .interrupted _ c d
  | .noFileOrDirectory _ c d | .invalidArgument _ c d | .permissionDenied _ c d
  | .resourceExhausted _ c d | .inappropriateType _ c d | .noSuchThing _ c d =>
    some (errorCode c, d)
  | _ => none

/-- A description with a capital first letter. -/
def capitalized (s : String) : String :=
  match s.toList with
  | c :: cs => String.ofList (c.toUpper :: cs)
  | [] => s

/-- The text of an error reported by the system. -/
def errorText (e : IO.Error) : String :=
  match systemError? e with
  | some (c, d) => systemErrorText c (capitalized d)
  | none => toString e

/-- Read a file. -/
def readFile (path : String) : IO (Except ReadFault ByteArray) := do
  try
    pure (.ok (← IO.FS.readBinFile path))
  catch e =>
    pure (.error (match systemError? e with
      | some (2, _) => .notFound
      | some (20, _) => .notDirectory
      | some (21, _) => .isDirectory
      | some (c, d) => .system c (capitalized d)
      | none => .system 0 (toString e)))

/-- The system's form of a socket address. -/
def toSystem (a : Net.SocketAddr) : Std.Net.SocketAddress :=
  match a.ip with
  | .v4 v => .v4 ⟨⟨#v[v.a, v.b, v.c, v.d]⟩, a.port⟩
  | .v6 v => .v6 ⟨⟨v.groups⟩, a.port⟩

/-- The library's form of a socket address. -/
def ofSystem : Std.Net.SocketAddress → Net.SocketAddr
  | .v4 a => ⟨.v4 ⟨a.addr.octets[0], a.addr.octets[1], a.addr.octets[2], a.addr.octets[3]⟩,
      a.port, 0⟩
  | .v6 a => ⟨.v6 ⟨a.addr.segments⟩, a.port, 0⟩

/-- A socket address of an IP address found for a host. -/
def withPort (port : UInt16) : Std.Net.IPAddr → Std.Net.SocketAddress
  | .v4 a => .v4 ⟨a, port⟩
  | .v6 a => .v6 ⟨a, port⟩

/-- Bind a listening socket at the first of the addresses that can be bound. -/
def bindFirst (addrs : List Std.Net.SocketAddress) (last : String) :
    IO (Except String TCP.Socket.Server) := do
  match addrs with
  | [] => pure (.error last)
  | a :: rest =>
    try
      let s ← TCP.Socket.Server.mk
      s.bind a
      s.listen 128
      pure (.ok s)
    catch e => bindFirst rest (errorText e)

/-- Bind the listening socket at an address, looking up a host name first. -/
def bindAddress (addr : String) : IO (Except String TCP.Socket.Server) := do
  match Net.ListenTarget.parse addr with
  | .error e => pure (.error e)
  | .ok (.socket a) => bindFirst [toSystem a] ""
  | .ok (.host name port) =>
    try
      let ips ← (DNS.getAddrInfo name "").block
      bindFirst (ips.toList.map (withPort port)) "could not resolve to any addresses"
    catch e =>
      pure (.error ("failed to lookup address information: " ++ capitalized (match systemError? e with
        | some (_, d) => d
        | none => toString e)))

/-- Write a log record. -/
def writeRecord (r : Logging.Record) : IO Unit := do
  let out ← IO.getStdout
  out.putStrLn (r.line (Logging.timeText (← now)))
  out.flush

/-- Write the records that the filter lets through. -/
def writeRecords (filter : Logging.Filter) (rs : List Logging.Record) : IO Unit :=
  rs.forM fun r => if filter.allows r.level r.target then writeRecord r else pure ()

/-- The bytes read at a time from a connection. -/
def readSize : UInt64 := 4096

/-- Answer the requests on one connection, until it closes or a request asks it to. -/
partial def converse (c : TCP.Socket.Client) (peer : Option Net.SocketAddr) (state : IO.Ref Service)
    (filter : Logging.Filter) (received : ByteArray) : Async Unit := do
  match Http.Frame.of received.toList with
  | .incomplete =>
    if received.size > Http.maxHeadBytes then
      c.send (Http.Response.badRequest.encode (Http.httpDate (← now)))
      c.shutdown
    else
      match ← c.recv? readSize with
      | some more => converse c peer state filter (received ++ more)
      | none => pure ()
  | .invalid =>
    c.send (Http.Response.badRequest.encode (Http.httpDate (← now)))
    c.shutdown
  | .complete head length =>
    let stamp ← now
    match head.request peer with
    | .error _ =>
      c.send (Http.Response.badRequest.encode (Http.httpDate stamp))
      c.shutdown
    | .ok req =>
      let a ← state.modifyGet fun s => let a := s.answer req stamp; (a, a.service)
      writeRecords filter a.records
      c.send (a.response.encode (Http.httpDate stamp))
      if head.keepAlive then converse c peer state filter (received.extract length received.size)
      else c.shutdown

/-- Sweep the history every period, until told to stop. -/
partial def sweepLoop (state : IO.Ref Service) (retention : Age) (periodMs : Nat)
    (filter : Logging.Filter) (running : IO.Ref Bool) : Async Unit := do
  sleep (Std.Time.Millisecond.Offset.ofNat periodMs)
  if ← running.get then
    let stamp ← now
    let notes ← state.modifyGet fun s => let (s, rs) := s.sweep retention stamp; (rs, s)
    writeRecords filter notes
    sweepLoop state retention periodMs filter running

/-- What the serving loop wakes up for. -/
inductive Wake where
  | connection (c : TCP.Socket.Client)
  | stop (s : Program.Signal)

/-- Accept connections until a stop signal. -/
partial def acceptLoop (server : TCP.Socket.Server) (state : IO.Ref Service)
    (filter : Logging.Filter) (interrupt terminate : Signal.Waiter) : Async Program.Signal := do
  let wake ← Selectable.one #[
    .case server.acceptSelector fun c => pure (Wake.connection c),
    .case interrupt.selector fun _ => pure (Wake.stop .interrupt),
    .case terminate.selector fun _ => pure (Wake.stop .terminate)]
  match wake with
  | .connection c =>
    let peer ← try pure (some (ofSystem (← c.getPeerName))) catch _ => pure none
    background (converse c peer state filter ByteArray.empty)
    acceptLoop server state filter interrupt terminate
  | .stop s => pure s

/-- Serve with the service until a stop signal, sweeping its history when a retention is
given. -/
def serve (server : TCP.Socket.Server) (service : Service) (retention : Option Age)
    (filter : Logging.Filter) : IO Program.Signal := do
  let state ← IO.mkRef service
  let running ← IO.mkRef true
  let interrupt ← Signal.Waiter.mk .sigint false
  let terminate ← Signal.Waiter.mk .sigterm false
  if let some retention := retention then
    let periodMs := max 1 (({ retention } : Sweep).period / nanosPerMilli)
    discard <| Async.toIO (sweepLoop state retention periodMs filter running)
  let signal ← (acceptLoop server state filter interrupt terminate).block
  running.set false
  pure signal

/-- Run a program against the system, with the listening socket once bound. -/
partial def perform (server : IO.Ref (Option TCP.Socket.Server)) : Prog Nat → IO Nat
  | .done code => pure code
  | .write s text next => do
    let h ← if s = .stdout then IO.getStdout else IO.getStderr
    h.putStr text
    h.flush
    perform server next
  | .log r next => do
    writeRecord r
    perform server next
  | .readFile p k => do perform server (k (← readFile p))
  | .getEnv n k => do perform server (k (← IO.getEnv n))
  | .listen a k => do
    match ← bindAddress a with
    | .ok s =>
      server.set (some s)
      perform server (k (.ok ()))
    | .error e => perform server (k (.error e))
  | .monoNow k => do perform server (k (MonoInstant.ofNanos (← IO.monoNanosNow)))
  | .serveUntilSignal service retention filter k => do
    match ← server.get with
    | some s => perform server (k (← serve s service retention filter))
    | none => throw (IO.userError "serving before the socket is bound")

end FirmwareRedirect.Cli.System

open FirmwareRedirect in
/-- Run the program with the command line's words and exit with its status. -/
def main (args : List String) : IO UInt32 := do
  let server ← IO.mkRef none
  let code ← Cli.System.perform server (Program.program args)
  pure code.toUInt32
