import FirmwareRedirect.Service.Routes
import FirmwareRedirect.Logging.Filter
import FirmwareRedirect.Logging.Record
import FirmwareRedirect.Files
import FirmwareRedirect.History.Sweep
/-!
# What the program asks of the world

The program is a tree of requests to the world it runs in, each with what to do with the
answer: write text, write a log record, read a file, read an environment variable, bind the
listening socket, read the monotonic clock, and serve until a signal comes. The tree itself is a plain value; a runner
answers the requests, with the real system or with a description of one, and so the same
program is run by the command line and examined by tests.
-/

namespace FirmwareRedirect.Program

/-- Where text is written. -/
inductive Stream where
  | stdout
  | stderr
  deriving DecidableEq, Repr

/-- The signals that stop the server. -/
inductive Signal where
  | terminate
  | interrupt
  deriving DecidableEq, Repr

/-- A program that ends with a value of type `α`. -/
inductive Prog (α : Type) where
  /-- Finish with a value. -/
  | done (a : α)
  /-- Write text as it is. -/
  | write (stream : Stream) (text : String) (next : Prog α)
  /-- Write a log record that the filter lets through. -/
  | log (record : Logging.Record) (next : Prog α)
  /-- Read the bytes of a file. -/
  | readFile (path : String) (k : Except ReadFault ByteArray → Prog α)
  /-- Read an environment variable. -/
  | getEnv (name : String) (k : Option String → Prog α)
  /-- Bind the listening socket, or learn why it cannot be bound. -/
  | listen (addr : String) (k : Except String Unit → Prog α)
  /-- Read the monotonic clock. -/
  | monoNow (k : MonoInstant → Prog α)
  /-- Serve requests with the service, logging through the filter, until a stop signal comes;
  while a sweep runs, its history is pruned with the sweep's retention. -/
  | serveUntilSignal (service : Service) (retention : Option Age) (filter : Logging.Filter)
      (k : Signal → Prog α)

namespace Prog

/-- Run one program, then another with its result. -/
def andThen {α β : Type} : Prog α → (α → Prog β) → Prog β
  | .done a, f => f a
  | .write s t next, f => .write s t (next.andThen f)
  | .log r next, f => .log r (next.andThen f)
  | .readFile p k, f => .readFile p fun r => (k r).andThen f
  | .getEnv n k, f => .getEnv n fun r => (k r).andThen f
  | .listen a k, f => .listen a fun r => (k r).andThen f
  | .monoNow k, f => .monoNow fun t => (k t).andThen f
  | .serveUntilSignal s r fl k, f => .serveUntilSignal s r fl fun x => (k x).andThen f

instance : Monad Prog where
  pure := .done
  bind := andThen

/-- Write text. -/
def say (s : Stream) (text : String) : Prog Unit := .write s text (.done ())

/-- Read a file. -/
def read (path : String) : Prog (Except ReadFault ByteArray) := .readFile path .done

/-- Read an environment variable. -/
def env (name : String) : Prog (Option String) := .getEnv name .done

/-- Bind the listening socket. -/
def bindSocket (addr : String) : Prog (Except String Unit) := .listen addr .done

/-- Read the monotonic clock. -/
def monoClock : Prog MonoInstant := .monoNow .done

/-- Serve until a signal, sweeping with the retention when one is given. -/
def serve (service : Service) (retention : Option Age) (filter : Logging.Filter) : Prog Signal :=
  .serveUntilSignal service retention filter .done

/-- Log a record when the filter lets it through. -/
def emit (filter : Logging.Filter) (level : Logging.Level) (target message : String) :
    Prog Unit :=
  if filter.allows level target then .log ⟨level, target, message⟩ (.done ()) else .done ()

@[simp] theorem done_andThen {α β : Type} (a : α) (f : α → Prog β) :
    (Prog.done a).andThen f = f a := rfl

@[simp] theorem pure_eq_done {α : Type} (a : α) : (pure a : Prog α) = .done a := rfl

end Prog

end FirmwareRedirect.Program
