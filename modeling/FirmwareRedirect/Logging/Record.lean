import FirmwareRedirect.Logging.Filter
import FirmwareRedirect.History.Clock
import FirmwareRedirect.Text.Quoted
/-!
# Log records and log lines

A log line is the time in UTC to the microsecond, the level right-aligned in five places, the
target and the message: `2024-01-02T15:04:05.123456Z  INFO shelly_update_server: starting`.
A message of several lines continues on the following lines as it is. The control characters
that steer a terminal are written as escapes, so that a message cannot drive the terminal that
shows it: escape, bell, backspace, form feed and delete as `\x1b`, `\x07`, `\x08`, `\x0c` and
`\x7f`, and the C1 controls as `\u{80}` to `\u{9f}`.

Each record names the part of the program that wrote it, its target: the program writes under
its own name, and its parts under that name followed by the part's name.

Lengths of time in messages are written with the largest unit that leaves a whole part —
seconds, milliseconds, microseconds or nanoseconds — and only the fraction digits needed:
`150s`, `3.5s`, `500ms`.
-/

namespace FirmwareRedirect.Logging

/-- A record to be logged. -/
structure Record where
  level : Level
  target : String
  message : String
  deriving DecidableEq, Repr

/-- A text right-aligned in `width` places. -/
def rightAligned (width : Nat) (s : String) : String :=
  String.ofList (List.replicate (width - s.length) ' ') ++ s

/-- How one character of a message is written in a log line: a terminal control as its
escape, any other character, line breaks and tabs included, as it is. -/
def terminalChar (c : Char) : List Char :=
  if c = '\x1b' then ['\\', 'x', '1', 'b']
  else if c = '\x07' then ['\\', 'x', '0', '7']
  else if c = '\x08' then ['\\', 'x', '0', '8']
  else if c = '\x0c' then ['\\', 'x', '0', 'c']
  else if c = '\x7f' then ['\\', 'x', '7', 'f']
  else if 0x80 ≤ c.toNat && c.toNat ≤ 0x9f then Text.unicodeEscape c.toNat
  else [c]

/-- A message as written in a log line. -/
def terminalText (s : String) : String :=
  String.ofList (s.toList.flatMap terminalChar)

/-- The log line of a record, given the text of its time. -/
def Record.line (r : Record) (time : String) : String :=
  time ++ " " ++ rightAligned 5 r.level.name ++ " " ++ r.target ++ ": " ++ terminalText r.message

/-- A number in `width` places, padded with zeros. -/
def zeroPadded (width : Nat) (n : Nat) : String :=
  let s := toString n
  String.ofList (List.replicate (width - s.length) '0') ++ s

/-- The time of a log line: `2024-01-02T15:04:05.123456Z`. -/
def timeText (t : Instant) : String :=
  let days := t.secs / secondsPerDay
  let ofDay := (t.secs % secondsPerDay).toNat
  let (y, m, d) := civilDate days
  let year := if y < 0 then "-" ++ zeroPadded 4 y.natAbs else zeroPadded 4 y.toNat
  let sec := ofDay % 60 + (if t.nanos ≥ nanosPerSecond then 1 else 0)
  year ++ "-" ++ zeroPadded 2 m ++ "-" ++ zeroPadded 2 d ++ "T" ++ zeroPadded 2 (ofDay / 3600) ++
    ":" ++ zeroPadded 2 (ofDay / 60 % 60) ++ ":" ++ zeroPadded 2 sec ++ "." ++
    zeroPadded 6 (t.nanos % nanosPerSecond / 1000) ++ "Z"

/-- The target of the program's own records: starting, settings, serving and stopping. -/
def mainTarget : String := "shelly_update_server"

/-- The target of the records about a replayed access log. -/
def replayTarget : String := "shelly_update_server::replay"

/-- The target of the records about the model table. -/
def modelsTarget : String := "shelly_update_server::models"

/-- The target of the records about the history sweep. -/
def sweeperTarget : String := "shelly_update_server::sweeper"

/-- The target of the records of each client's history. -/
def historyTarget : String := "shelly_update_server::history"

end FirmwareRedirect.Logging

namespace FirmwareRedirect

/-- The significant digits of a fraction `frac / (10 * unit)`, most significant first, without
trailing zeros. -/
def fractionDigits (frac unit : Nat) : Nat → List Char
  | 0 => []
  | fuel + 1 =>
    if frac = 0 || unit = 0 then []
    else Char.ofNat (48 + frac / unit) :: fractionDigits (frac % unit) (unit / 10) fuel

/-- A whole part, a fraction of `10 * unit` and a unit name. -/
def decimalText (whole frac unit : Nat) (suffix : String) : String :=
  let ds := fractionDigits frac unit 9
  toString whole ++ (if ds.isEmpty then "" else "." ++ String.ofList ds) ++ suffix

/-- A length of time as written in messages. -/
def Age.text (a : Age) : String :=
  if a.secs > 0 then decimalText a.secs a.nanos 100000000 "s"
  else if a.nanos ≥ 1000000 then decimalText (a.nanos / 1000000) (a.nanos % 1000000) 100000 "ms"
  else if a.nanos ≥ 1000 then decimalText (a.nanos / 1000) (a.nanos % 1000) 100 "µs"
  else toString a.nanos ++ "ns"

/-- The age of a number of nanoseconds. -/
def Age.ofNanos (n : Nat) : Age := ⟨n / nanosPerSecond, n % nanosPerSecond⟩

end FirmwareRedirect
