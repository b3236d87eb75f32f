import FirmwareRedirect.History.Store
import FirmwareRedirect.Text.Html
/-!
# Showing the history

Instants in the history are shown as `Jan  2 15:04:05`: the English month, the day padded to two
places with a space, and the time of day; a leap second shows as second 60. The time of day is
local time, and the local zone here is UTC. An entry is shown as its stamp and its message.

A client's history is shown as a small HTML page: a heading with the client, a list with one
item per entry, oldest first, and the current time under a rule. The list is left out when
there are no entries. Every text from a client goes through the HTML escape.
-/

namespace FirmwareRedirect

/-- The month and day of a day count since the Unix epoch. -/
def monthDay (days : Int) : Nat × Nat := (civilDate days).2

/-- The stamp of an instant: `Jan  2 15:04:05`. -/
def Instant.stamp (t : Instant) : String :=
  let days := t.secs / secondsPerDay
  let ofDay := (t.secs % secondsPerDay).toNat
  let (m, d) := monthDay days
  let sec := ofDay % 60 + (if t.nanos ≥ nanosPerSecond then 1 else 0)
  monthName m ++ " " ++ twoPlaces ' ' d ++ " " ++ twoPlaces '0' (ofDay / 3600) ++ ":" ++
    twoPlaces '0' (ofDay / 60 % 60) ++ ":" ++ twoPlaces '0' sec

/-- An entry as shown: `Jan  2 15:04:05 | message`. -/
def LogEntry.display (e : LogEntry) : String := e.stamp.stamp ++ " | " ++ e.message

/-- The list item for one entry. -/
def LogEntry.item (e : LogEntry) : String :=
  "  <li><pre style='margin: 0'>" ++ Text.Html.escape e.display ++ "</pre></li>\n"

/-- The history page of a client, shown at `now`. -/
def historyPage (client : String) (entries : List LogEntry) (now : Instant) : String :=
  let heading := "<h1>History for " ++ Text.Html.escape client ++ "</h1>\n"
  let list :=
    if entries.isEmpty then ""
    else "<ul>\n" ++ String.join (entries.map LogEntry.item) ++ "</ul>\n"
  heading ++ list ++ "<hr>\n" ++ now.stamp ++ "\n"

end FirmwareRedirect
