import FirmwareRedirect.History.Clock
/-!
# Per-client request history

Each client has a log of entries, oldest first: a message and the instant it was recorded.
Entries are only ever added at the end of a log. Pruning drops, from the front of each log, the
entries recorded at or before a threshold instant, up to the first later one; a log left empty
is removed, so every client in the store has at least one entry.
-/

namespace FirmwareRedirect

/-- One line of a client's history. -/
structure LogEntry where
  stamp : Instant
  message : String
  deriving Repr, Inhabited, DecidableEq

/-- The history of every client, in the order the clients first appeared. -/
structure LogStore where
  logs : List (String × List LogEntry)
  deriving Repr, Inhabited

namespace LogStore

/-- No history at all. -/
def empty : LogStore := ⟨[]⟩

/-- Add an entry at the end of a client's log, opening the log if needed. -/
def appendAt (s : LogStore) (client : String) (message : String) (stamp : Instant) :
    LogStore :=
  let e : LogEntry := ⟨stamp, message⟩
  if s.logs.any (·.1 == client) then
    ⟨s.logs.map fun (c, es) => if c == client then (c, es ++ [e]) else (c, es)⟩
  else ⟨s.logs ++ [(client, [e])]⟩

/-- A client's log, oldest first; empty for a client without history. -/
def render (s : LogStore) (client : String) : List LogEntry :=
  ((s.logs.find? (·.1 == client)).map (·.2)).getD []

/-- The number of clients with history. -/
def clientCount (s : LogStore) : Nat := s.logs.length

/-- Whether an entry was recorded at or before the threshold. -/
def stale (threshold : Instant) (e : LogEntry) : Bool := e.stamp.le threshold

/-- Drop the stale entries at the front of every log, and the logs left empty. Gives the new
store and the number of entries dropped. -/
def pruneBefore (s : LogStore) (threshold : Instant) : LogStore × Nat :=
  let step := fun (acc : List (String × List LogEntry) × Nat) (log : String × List LogEntry) =>
    let kept := log.2.dropWhile (stale threshold)
    let dropped := log.2.length - kept.length
    if kept.isEmpty then (acc.1, acc.2 + dropped) else (acc.1 ++ [(log.1, kept)], acc.2 + dropped)
  let (logs, removed) := s.logs.foldl step ([], 0)
  (⟨logs⟩, removed)

/-- Drop the entries older than `maxAge` at `now`. When the threshold cannot be represented,
nothing is dropped. -/
def pruneAt (s : LogStore) (maxAge : Age) (now : Instant) : LogStore × Nat :=
  match now.minus? maxAge with
  | some threshold => s.pruneBefore threshold
  | none => (s, 0)

end LogStore

end FirmwareRedirect
