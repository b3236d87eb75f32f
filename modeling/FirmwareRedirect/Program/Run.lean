import FirmwareRedirect.Program.Effect
import FirmwareRedirect.Cli.Parse
import FirmwareRedirect.Config.Load
import FirmwareRedirect.Models.Load
import FirmwareRedirect.AccessLog
import FirmwareRedirect.History.Sweep
/-!
# The program

The command line is read first: help and the version are written to standard output, and a
command line that cannot be read is refused on standard error with status 2. Otherwise the
settings are loaded, the flags applied, and the log filter set from `RUST_LOG` or else from the
settings (`info` when they failed to load). After the starting line the program replays an
access log or serves; an error stops it with status 1, logged at the main target.

Replaying logs a warning for each line that does not resolve, then the two counts. Serving binds
the listening socket, then serves and sweeps the history until a stop signal, and ends with
status 0. The sweep runs as a task of its own: when its first deadline overflows the monotonic
clock, the task panics, the runtime reports the panic on standard error, and the server serves
on without a sweep.
-/

namespace FirmwareRedirect.Program

open Logging

/-- The environment variable that sets the log filter. -/
def logFilterVariable : String := "RUST_LOG"

/-- The environment variable of the home directory. -/
def homeVariable : String := "HOME"

/-- The exit status of a run that went well. -/
def exitSuccess : Nat := 0

/-- The exit status of a run that failed. -/
def exitFailure : Nat := 1

/-- The exit status of a command line that cannot be read. -/
def exitUsage : Nat := 2

/-- The environment variables that override settings. -/
def settingsVariables : List String :=
  [envListen, envRealIpHeader, envDestUrlTemplate, envStockModelMap, envLogRetentionSecs]

/-- A step of the program that may stop it with an error message. -/
abbrev Step := ExceptT String Prog

/-- Stop with the error of a failed result, or go on with its value. -/
def Step.ofExcept {α : Type} : Except String α → Step α
  | .ok a => pure a
  | .error e => throw e

/-- Read the given environment variables, giving those that are set. -/
def readVariables : List String → Prog (List (String × String))
  | [] => pure []
  | n :: ns => do
    let v ← Prog.env n
    let rest ← readVariables ns
    pure (match v with
      | some x => (n, x) :: rest
      | none => rest)

/-- Load the settings from the named file, or the default file if there is one, and the
environment. -/
def loadSettings (config : Option String) : Prog (Except String Settings) := do
  let path := config.getD defaultSettingsFile
  let file ← Prog.read path
  let vars ← readVariables settingsVariables
  pure (Settings.load (FileView.only path file) (fun n => vars.lookup n) config)

/-- The line written for a filter directive that cannot be read. -/
def ignoredDirective (part : String) (e : DirectiveError) : String :=
  "ignoring \x60" ++ part ++ "\x60: " ++ e.message ++ "\n"

/-- Load the model table that the settings name. -/
def loadModels (filter : Filter) (s : Settings) : Step ModelTable := do
  Step.ofExcept s.validateModels
  let home ← Prog.env homeVariable
  let path := s.stockModelMapPath home
  Prog.emit filter .info mainTarget ("Using stock model map from " ++ path)
  let file ← Prog.read path
  let t ← Step.ofExcept ((ModelTable.load (FileView.only path file) path).mapError (·.message))
  Prog.emit filter .info mainTarget ("Loaded " ++ toString t.size ++ " stock model prefixes")
  pure t

/-- The warnings for one replayed line. -/
def reportLine (filter : Filter) (line : String) : AccessLog.Verdict → Prog Unit
  | .blank | .resolved _ => pure ()
  | .malformed => Prog.emit filter .warn replayTarget ("malformed log line: " ++ line)
  | .unresolved fw id e => do
    if let .unknownModel _ := e then
      Prog.emit filter .warn modelsTarget (unknownModelNote fw id)
    Prog.emit filter .warn replayTarget e.message

/-- Replay an access log through the model table that the settings name. -/
def replay (filter : Filter) (s : Settings) (file : String) : Step Unit := do
  let t ← loadModels filter s
  let read ← Prog.read file
  let r := AccessLog.replayFile t (FileView.only file read) file
  for (line, v) in r.verdicts do
    reportLine filter line v
  match r.summary with
  | .error f => throw ("Failed to replay " ++ file ++ ": " ++ f.message)
  | .ok sum =>
    Prog.emit filter .info replayTarget ("Lines         : " ++ toString sum.lines)
    Prog.emit filter .info replayTarget ("Unsupported   : " ++ toString sum.unsupported)

/-- The name of a stop signal in the log. -/
def Signal.name : Signal → String
  | .terminate => "SIGTERM"
  | .interrupt => "SIGINT"

/-! ## The start of the sweep -/

/-- A panic as the runtime reports it on the error stream, after a blank line: the thread and
its number, the place in the source, the message, and a short backtrace, innermost frame first. -/
structure PanicReport where
  thread : String
  threadId : Nat
  place : String
  message : String
  frames : List String
  deriving Repr

/-- The text of a panic report. -/
def PanicReport.text (p : PanicReport) : String :=
  "\nthread '" ++ p.thread ++ "' (" ++ toString p.threadId ++ ") panicked at " ++ p.place ++
    ":\n" ++ p.message ++ "\nstack backtrace:\n" ++
    String.join (p.frames.mapIdx fun i f => rightAligned 4 (toString i) ++ ": " ++ f ++ "\n") ++
    "note: Some details are omitted, run with \x60RUST_BACKTRACE=full\x60 for a verbose backtrace.\n"

/-- The message of an addition that overflows the monotonic clock. -/
def instantOverflow : String := "overflow when adding duration to instant"

/-- How the sweep's task panics when its first deadline overflows: in the timer library's
addition, on a worker thread of the runtime, below the task's poll. -/
def sweepStartPanic : PanicReport where
  thread := "tokio-rt-worker"
  threadId := 9
  place := "/usr/local/cargo/registry/src/index.crates.io-1949cf8c6b5b557f/" ++
    "tokio-1.54.1/src/time/instant.rs:161:27"
  message := instantOverflow
  frames := [
    "__rustc::rust_begin_unwind",
    "core::panicking::panic_fmt",
    "core::option::expect_failed",
    "<std::time::Instant as core::ops::arith::Add<core::time::Duration>>::add",
    "<tokio_util::task::task_tracker::TrackedFuture<shelly_update_server::sweeper::run::" ++
      "\x7bclosure#0\x7d> as core::future::future::Future>::poll",
    "tokio::runtime::task::raw::poll::<tokio_util::task::task_tracker::TrackedFuture<" ++
      "shelly_update_server::sweeper::run::\x7bclosure#0\x7d>, " ++
      "alloc::sync::Arc<tokio::runtime::scheduler::multi_thread::handle::Handle>>",
    "<tokio::runtime::scheduler::multi_thread::worker::Context>::run_task",
    "<tokio::runtime::scheduler::multi_thread::worker::Context>::run",
    "<tokio::runtime::context::scoped::Scoped<tokio::runtime::scheduler::Context>>::set::<" ++
      "tokio::runtime::scheduler::multi_thread::worker::run::\x7bclosure#0\x7d::" ++
      "\x7bclosure#0\x7d, ()>",
    "tokio::runtime::context::runtime::enter_runtime::<" ++
      "tokio::runtime::scheduler::multi_thread::worker::run::\x7bclosure#0\x7d, ()>",
    "tokio::runtime::scheduler::multi_thread::worker::run",
    "<tokio::runtime::blocking::task::BlockingTask<<" ++
      "tokio::runtime::scheduler::multi_thread::worker::Launch>::launch::\x7bclosure#0\x7d> " ++
      "as core::future::future::Future>::poll",
    "tokio::runtime::task::raw::poll::<tokio::runtime::blocking::task::BlockingTask<<" ++
      "tokio::runtime::scheduler::multi_thread::worker::Launch>::launch::\x7bclosure#0\x7d>, " ++
      "tokio::runtime::blocking::schedule::BlockingSchedule>",
    "<tokio::runtime::blocking::pool::Inner>::run"]

/-- The note of a sweep that started: its period and its retention. -/
def sweepStartedNote (sweep : Sweep) : String :=
  "Retention sweeper started (every " ++ (Age.ofNanos sweep.period).text ++ ", retention " ++
    sweep.retention.text ++ ")"

/-- Start the sweep's task. It reads the monotonic clock and sets its first deadline a period
later; when that overflows, the task panics before it logs anything, and otherwise it logs that
it started. Whether the sweep runs on. -/
def startSweep (filter : Filter) (sweep : Sweep) : Prog Bool := do
  match sweep.firstDeadline? (← Prog.monoClock) with
  | none =>
    Prog.say .stderr sweepStartPanic.text
    pure false
  | some _ =>
    Prog.emit filter .debug sweeperTarget (sweepStartedNote sweep)
    pure true

/-- Serve until a stop signal. -/
def serve (filter : Filter) (s : Settings) : Step Unit := do
  let redirect ← Step.ofExcept s.validateServe
  let t ← loadModels filter s
  Prog.emit filter .info mainTarget ("Will redirect to " ++ redirect.text)
  let listen := s.server.listen
  -- the answer is lifted whole: its error is not the step's own
  match ← ExceptT.lift (Prog.bindSocket listen) with
  | .error e => throw ("Failed to bind " ++ listen ++ ": " ++ e)
  | .ok () => pure ()
  Prog.emit filter .info mainTarget ("Listening on " ++ listen)
  let retention : Age := ⟨s.server.logRetentionSecs, 0⟩
  -- a sweep whose task panicked is gone, and the server serves on without it
  let sweeping ← startSweep filter { retention }
  let signal ← Prog.serve (Service.start s t redirect) (if sweeping then some retention else none)
    filter
  Prog.emit filter .info mainTarget ("Got " ++ signal.name ++ ", stopping")
  if sweeping then Prog.emit filter .debug sweeperTarget "Retention sweeper stopped"
  Prog.emit filter .info mainTarget "Exiting"

/-- The settings that the command's flags give, and the access log to replay, if any. -/
def Cli.Command.plan : Option Cli.Command → Overrides × Option String
  | none => ({}, none)
  | some (.serve flags) => (flags, none)
  | some (.parseLog file map) => ({ stockModelMap := map }, some file)

/-- Run a command line that asks the program to work, giving the exit status. -/
def execute (inv : Cli.Invocation) : Prog Nat := do
  let (flags, file) := Cli.Command.plan inv.command
  let loaded := (← loadSettings inv.config).map (Settings.applyOverrides flags)
  let level := match loaded with
    | .ok s => s.logging.level
    | .error _ => "info"
  let (filter, skipped) := Filter.parse ((← Prog.env logFilterVariable).getD level)
  for (part, e) in skipped do
    Prog.say .stderr (ignoredDirective part e)
  Prog.emit filter .info mainTarget
    (Cli.programName ++ " v" ++ Cli.programVersion ++ " starting")
  let result ← ExceptT.run do
    let s ← Step.ofExcept loaded
    match file with
    | some f => replay filter s f
    | none => serve filter s
  match result with
  | .ok () => pure exitSuccess
  | .error e => do
    Prog.emit filter .error mainTarget e
    pure exitFailure

/-- The program: read the command line and do what it asks, giving the exit status. -/
def program (args : List String) : Prog Nat :=
  match Cli.parseArgs args with
  | .help text => do Prog.say .stdout text; pure exitSuccess
  | .version text => do Prog.say .stdout text; pure exitSuccess
  | .error e => do Prog.say .stderr e.render; pure exitUsage
  | .run inv => execute inv

end FirmwareRedirect.Program
