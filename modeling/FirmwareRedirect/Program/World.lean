import FirmwareRedirect.Program.Effect
import FirmwareRedirect.Net.Listen
/-!
# Running a program in a described world

A world answers every request of a program: it holds the files of one directory, the
environment, what binding an address gives, the reading of the monotonic clock, and the signal
that stops a server. The signal may
depend on what the program has written so far, as when the server is stopped once it says that
it listens; a world that sends none stops the program for good instead.

Running a program in a world gives its transcript: the text written to each stream, in order,
and how the run ended. Log records are written to standard output, each on a line of its own
with the world's clock as its time.
-/

namespace FirmwareRedirect.Program

open Logging

/-- The monotonic clock of a machine that has been running for a day. -/
def dayOfUptime : MonoInstant := MonoInstant.ofNanos (86400 * nanosPerSecond)

/-- A world in which a program can run. -/
structure World where
  /-- The files the program can read. -/
  files : FileView
  /-- The environment variables that are set. -/
  env : List (String × String)
  /-- What binding the listening socket at an address gives. -/
  bind : String → Except String Unit
  /-- The signal sent to a serving program, given what it has written so far; none when the
  program is stopped without one. -/
  signal : List (Stream × String) → Option Signal
  /-- The time of log records. -/
  clock : Instant
  /-- The reading of the monotonic clock. -/
  mono : MonoInstant := dayOfUptime

/-- How a run ended. -/
inductive Ending where
  /-- The program exited with a status. -/
  | exit (code : Nat)
  /-- The program was stopped from outside. -/
  | killed
  deriving DecidableEq, Repr

/-- What a run in a world did. -/
structure Transcript where
  /-- The text written, in order, with the stream it went to. -/
  output : List (Stream × String)
  ending : Ending
  /-- Whether a stop signal was sent. -/
  signalled : Bool
  deriving Repr

/-- The text written to one stream. -/
def Transcript.text (t : Transcript) (s : Stream) : String :=
  String.join ((t.output.filter (·.1 = s)).map (·.2))

/-- Run a program, given the text written so far, newest first, and whether a signal was
sent. -/
def Prog.runFrom (w : World) (written : List (Stream × String)) (signalled : Bool) :
    Prog Nat → Transcript
  | .done code => ⟨written.reverse, .exit code, signalled⟩
  | .write s text next => next.runFrom w ((s, text) :: written) signalled
  | .log r next => next.runFrom w ((.stdout, r.line (timeText w.clock) ++ "\n") :: written) signalled
  | .readFile p k => (k (w.files p)).runFrom w written signalled
  | .getEnv n k => (k (w.env.lookup n)).runFrom w written signalled
  | .listen a k => (k (w.bind a)).runFrom w written signalled
  | .monoNow k => (k w.mono).runFrom w written signalled
  | .serveUntilSignal _ _ _ k =>
    match w.signal written.reverse with
    | some sig => (k sig).runFrom w written true
    | none => ⟨written.reverse, .killed, signalled⟩

/-- Run a program in a world. -/
def Prog.runIn (w : World) (p : Prog Nat) : Transcript := p.runFrom w [] false

/-- The error of binding an address that the machine does not have. -/
def addressNotAvailable : String := "Cannot assign requested address (os error 99)"

/-- The error of looking up a host name without a name service to ask. -/
def hostNotKnown : String :=
  "failed to lookup address information: Temporary failure in name resolution"

/-- The name of the machine itself. -/
def localHostName : String := "localhost"

/-- Binding on a machine with only the loopback interface and no name service: an address
that cannot be read is refused, a local socket address binds, and a host name binds only when
it is the machine's own name, in any case. -/
def loopbackBind (addr : String) : Except String Unit :=
  match Net.ListenTarget.parse addr with
  | .error e => .error e
  | .ok (.socket a) => if a.ip.isLocal then .ok () else .error addressNotAvailable
  | .ok (.host name _) => if name.toLower = localHostName then .ok () else .error hostNotKnown

end FirmwareRedirect.Program
