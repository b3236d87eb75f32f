import FirmwareRedirect.Http.Message
import FirmwareRedirect.Http.Target
import FirmwareRedirect.History.Clock
import FirmwareRedirect.Text.Lossy
import FirmwareRedirect.Text.Split
/-!
# Requests and responses on a connection

A request arrives as a head and a body. The head is a request line (method, target and version
`HTTP/1.0` or `HTTP/1.1`, separated by single spaces) and header lines (`name: value`), each
ended by a line feed with an optional carriage return before it, and the head is ended by an
empty line; empty lines before the request line are skipped. The body is as long as the
`content-length` field says, or empty without one. A request sent in chunks is refused, as is a
head that breaks a field over two lines.

The bytes received so far on a connection form a *frame*: not yet a whole request, a whole
request and the number of bytes it takes, or bytes that are no request at all. A connection is
kept open after the answer unless the request asks to close it; `HTTP/1.0` closes unless the
request asks to keep it.

A response is written as a status line, its header fields, the date, an empty line and the
body.
-/

namespace FirmwareRedirect.Http

/-- The byte that ends a line. -/
def newline : UInt8 := 10

/-- The byte that may stand before the end of a line. -/
def carriageReturn : UInt8 := 13

/-- A line as received, last byte first, without the carriage return before its end. -/
def lineText (line : List UInt8) : List UInt8 :=
  (match line with
    | c :: more => if c = carriageReturn then more else line
    | [] => []).reverse

/-- The lines of a head, the empty line that ends it left out, and the bytes after it; none
while the empty line has not arrived. `line` holds the current line, last byte first. -/
def headLines : List UInt8 → List UInt8 → List (List UInt8) →
    Option (List (List UInt8) × List UInt8)
  | [], _, _ => none
  | b :: rest, line, lines =>
    if b = newline then
      if (lineText line).isEmpty then
        if lines.isEmpty then headLines rest [] [] else some (lines.reverse, rest)
      else headLines rest [] (lineText line :: lines)
    else headLines rest (b :: line) lines

/-- The text of bytes that are all ASCII. -/
def asciiText (bytes : List UInt8) : Option String :=
  if bytes.all (· < 128) then some (String.ofList (bytes.map fun b => Char.ofNat b.toNat))
  else none

/-- The parts of a line between single spaces. -/
def spaceParts (line : List UInt8) : List (List UInt8) := Text.splitOn 32 line

/-- A request head as received. -/
structure RequestHead where
  method : Method
  /-- The request target, as sent. -/
  target : String
  /-- The minor version: 0 for `HTTP/1.0`, 1 for `HTTP/1.1`. -/
  minor : Nat
  headers : Headers

/-- Read a version: `HTTP/1.0` or `HTTP/1.1`. -/
def minorVersion? (bytes : List UInt8) : Option Nat :=
  match asciiText bytes with
  | some "HTTP/1.0" => some 0
  | some "HTTP/1.1" => some 1
  | _ => none

/-- Whether a byte is blank inside a line: a space or a tab. -/
def isBlankByte (b : UInt8) : Bool := b = 32 || b = 9

/-- Read a header line: a name, a colon and a value, blanks around the value dropped. -/
def headerLine? (line : List UInt8) : Option (HeaderName × HeaderValue) := do
  let k ← line.idxOf? 58
  let name ← (asciiText (line.take k)).bind HeaderName.parse?
  let value := ((line.drop (k + 1)).dropWhile isBlankByte).reverse.dropWhile isBlankByte
  let value ← HeaderValue.parse? value.reverse
  pure (name, value)

/-- Read the lines of a request head. -/
def RequestHead.parse? : List (List UInt8) → Option RequestHead
  | [] => none
  | first :: fields => do
    let (methodBytes, targetBytes, versionBytes) ← match spaceParts first with
      | [m, t, v] => some (m, t, v)
      | _ => none
    let method ← (asciiText methodBytes).bind Method.parse?
    guard !targetBytes.isEmpty
    let minor ← minorVersion? versionBytes
    let headers ← fields.mapM headerLine?
    pure ⟨method, Text.decodeLossy targetBytes, minor, headers⟩

/-- The value of a field as lowercase comma-separated words. -/
def RequestHead.words (h : RequestHead) (name : String) : List String :=
  match h.headers.text? name with
  | some v => (v.splitOn ",").map fun w => (w.trimAscii.toString).toLower
  | none => []

/-- The length of the body: the `content-length` field, or zero without one. A body sent in
chunks, or a length that is not a number, cannot be read. -/
def RequestHead.bodyLength? (h : RequestHead) : Option Nat :=
  if (h.headers.get? "transfer-encoding").isSome then none
  else match h.headers.text? "content-length" with
    | some v => if !v.isEmpty && v.all Char.isDigit then v.toNat? else none
    | none => if (h.headers.get? "content-length").isSome then none else some 0

/-- Whether the connection stays open after the answer. -/
def RequestHead.keepAlive (h : RequestHead) : Bool :=
  let words := h.words "connection"
  if h.minor = 0 then words.contains "keep-alive" else !words.contains "close"

/-- The request as the service sees it, or why its target is not one. -/
def RequestHead.request (h : RequestHead) (peer : Option Net.SocketAddr) :
    Except TargetError Request := do
  let path ← targetPath h.target
  pure { method := h.method, path, headers := h.headers, peer }

/-- What the bytes received on a connection hold. -/
inductive Frame where
  /-- Not yet a whole request. -/
  | incomplete
  /-- A whole request, and the number of bytes it takes with its body. -/
  | complete (head : RequestHead) (length : Nat)
  /-- Bytes that are no request. -/
  | invalid

/-- The frame of the bytes received so far. -/
def Frame.of (bytes : List UInt8) : Frame :=
  match headLines bytes [] [] with
  | none => .incomplete
  | some (lines, rest) =>
    match RequestHead.parse? lines with
    | none => .invalid
    | some head =>
      match head.bodyLength? with
      | none => .invalid
      | some n =>
        if rest.length < n then .incomplete
        else .complete head (bytes.length - rest.length + n)

/-- The longest head that is waited for before the bytes are refused. -/
def maxHeadBytes : Nat := 65536

/-- The reason phrase of a status. -/
def Status.reason : Status → String
  | .ok => "OK"
  | .found => "Found"
  | .badRequest => "Bad Request"
  | .notFound => "Not Found"
  | .internalError => "Internal Server Error"

/-- The answer to bytes that are no request. -/
def Response.badRequest : Response := ⟨.badRequest, [("content-length", "0")], ""⟩

/-- The names of the days of the week, from Sunday. -/
def weekdayName (d : Nat) : String :=
  (["Sun", "Mon", "Tue", "Wed", "Thu", "Fri", "Sat"][d]?).getD ""

/-- A time as written in a `date` field: `Thu, 12 Nov 2026 09:05:03 GMT`. -/
def httpDate (t : Instant) : String :=
  let days := t.secs / secondsPerDay
  let ofDay := (t.secs % secondsPerDay).toNat
  let (y, m, d) := civilDate days
  -- the first day of 1970 was a Thursday
  let weekday := ((days + 4) % 7).toNat
  let two (n : Nat) := twoPlaces '0' n
  weekdayName weekday ++ ", " ++ two d ++ " " ++ monthName m ++ " " ++ toString y ++ " " ++
    two (ofDay / 3600) ++ ":" ++ two (ofDay / 60 % 60) ++ ":" ++ two (ofDay % 60) ++ " GMT"

/-- The bytes of a response, with the date of the answer. -/
def Response.encode (r : Response) (date : String) : ByteArray :=
  let fields := r.headers.foldl (fun acc (n, v) => acc ++ n ++ ": " ++ v ++ "\r\n") ""
  ("HTTP/1.1 " ++ toString r.status.code ++ " " ++ r.status.reason ++ "\r\n" ++ fields ++
    "date: " ++ date ++ "\r\n\r\n" ++ r.body).toUTF8

/-- The bytes after a head are a part of the bytes read. -/
theorem length_rest_headLines_le {bs line : List UInt8} {lines ls : List (List UInt8)}
    {rest : List UInt8} (h : headLines bs line lines = some (ls, rest)) :
    rest.length ≤ bs.length := by
  induction bs generalizing line lines with
  | nil => simp [headLines] at h
  | cons b bs ih =>
    simp only [headLines] at h
    by_cases hb : b = newline
    · by_cases he : (lineText line).isEmpty
      · by_cases hl : lines.isEmpty
        · simp only [hb, he, hl, if_true] at h
          exact Nat.le_succ_of_le (ih h)
        · simp only [hb, he, hl, if_true, if_false, Bool.false_eq_true, Option.some.injEq,
            Prod.mk.injEq] at h
          rw [← h.2]
          exact Nat.le_succ _
      · simp only [hb, he, if_true, if_false, Bool.false_eq_true] at h
        exact Nat.le_succ_of_le (ih h)
    · simp only [hb, if_false] at h
      exact Nat.le_succ_of_le (ih h)

/-- A whole request never takes more bytes than were received. -/
theorem Frame.length_le {bytes : List UInt8} {head : RequestHead} {n : Nat}
    (h : Frame.of bytes = .complete head n) : n ≤ bytes.length := by
  unfold Frame.of at h
  split at h
  · cases h
  · rename_i lines rest hl
    have hr := length_rest_headLines_le hl
    split at h
    · cases h
    · split at h
      · cases h
      · split at h
        · cases h
        · rename_i k _ hk
          injection h with _ hn
          omega

end FirmwareRedirect.Http
