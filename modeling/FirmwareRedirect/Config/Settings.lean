import FirmwareRedirect.Config.Template
import FirmwareRedirect.Text.Quoted
/-!
# Server settings

The settings come from four places, each overriding the one before: built-in defaults, the
settings file, the environment (`SUS_LISTEN_ADDR`, `SUS_REAL_IP_HEADER`,
`SUS_DEST_URL_TEMPLATE`, `SUS_STOCK_MODEL_MAP`, `SUS_LOG_RETENTION_SECS`) and command-line
flags. A value that is given always wins, even when it is empty. The shutdown grace period and
the log level come only from the file or the defaults.

Serving needs a model map, an address to listen on, a positive retention and a redirect
template; `Settings.validateServe` checks these in that order.
-/

namespace FirmwareRedirect

/-- The HTTP server's settings. -/
structure ServerSettings where
  /-- The socket address to listen on. -/
  listen : String := ""
  /-- The header that carries the client's address behind a proxy; empty for none. -/
  realIpHeader : String := ""
  /-- The redirect URL template. -/
  destUrlTemplate : String := ""
  /-- How many seconds of request history each client keeps. -/
  logRetentionSecs : Nat := 300
  /-- How many seconds requests in flight get to finish at shutdown. -/
  shutdownGraceSecs : Nat := 5
  deriving Repr, DecidableEq

/-- Where the model map is. -/
structure ModelSettings where
  /-- The path of the model map file. -/
  stockModelMap : String := ""
  deriving Repr, DecidableEq

/-- Logging settings. -/
structure LoggingSettings where
  /-- The log filter. -/
  level : String := "info"
  deriving Repr, DecidableEq

/-- All settings. -/
structure Settings where
  server : ServerSettings := {}
  models : ModelSettings := {}
  logging : LoggingSettings := {}
  deriving Repr, DecidableEq

/-- Values given on the command line; each one given replaces the loaded value. -/
structure Overrides where
  listen : Option String := none
  realIpHeader : Option String := none
  destUrlTemplate : Option String := none
  stockModelMap : Option String := none
  logRetentionSecs : Option Nat := none
  deriving Repr, DecidableEq

/-- The largest value of an unsigned 64-bit number, plus one. -/
def u64Bound : Nat := Nat.pow 2 64

/-- Why a text is not an unsigned 64-bit number. -/
inductive NumberTextError where
  | empty
  | invalidDigit
  | tooLarge
  deriving Repr, DecidableEq

/-- The text of a number error. -/
def NumberTextError.message : NumberTextError → String
  | .empty => "cannot parse integer from empty string"
  | .invalidDigit => "invalid digit found in string"
  | .tooLarge => "number too large to fit in target type"

/-- Read decimal digits onto `acc`, left to right, failing at the first non-digit or at the
first digit that takes the value past 64 bits. -/
def readDigits (acc : Nat) : List Char → Except NumberTextError Nat
  | [] => .ok acc
  | c :: cs =>
    if c.isDigit then
      let v := acc * 10 + (c.toNat - '0'.toNat)
      if v < u64Bound then readDigits v cs else .error .tooLarge
    else .error .invalidDigit

/-- Read an unsigned 64-bit number: decimal digits after an optional `+`. -/
def parseU64 (s : String) : Except NumberTextError Nat :=
  match s.toList with
  | [] => .error .empty
  | ['+'] => .error .invalidDigit
  | '+' :: ds => readDigits 0 ds
  | ds => readDigits 0 ds

/-- The environment variables that settings are read from. -/
def envListen : String := "SUS_LISTEN_ADDR"
/-- The environment variable naming the client address header. -/
def envRealIpHeader : String := "SUS_REAL_IP_HEADER"
/-- The environment variable holding the redirect template. -/
def envDestUrlTemplate : String := "SUS_DEST_URL_TEMPLATE"
/-- The environment variable naming the model map file. -/
def envStockModelMap : String := "SUS_STOCK_MODEL_MAP"
/-- The environment variable holding the retention in seconds. -/
def envLogRetentionSecs : String := "SUS_LOG_RETENTION_SECS"

namespace Settings

/-- Apply the environment, read through `lookup`. -/
def applyEnv (lookup : String → Option String) (s : Settings) : Except String Settings := do
  let mut s := s
  if let some v := lookup envListen then
    s := { s with server.listen := v }
  if let some v := lookup envRealIpHeader then
    s := { s with server.realIpHeader := v }
  if let some v := lookup envDestUrlTemplate then
    s := { s with server.destUrlTemplate := v }
  if let some v := lookup envStockModelMap then
    s := { s with models.stockModelMap := v }
  if let some v := lookup envLogRetentionSecs then
    match parseU64 v with
    | .ok n => s := { s with server.logRetentionSecs := n }
    | .error e =>
      throw ("Invalid " ++ envLogRetentionSecs ++ " " ++ Text.quote v ++ ": " ++ e.message)
  return s

/-- Apply the command-line values. -/
def applyOverrides (o : Overrides) (s : Settings) : Settings :=
  { s with
    server.listen := o.listen.getD s.server.listen
    server.realIpHeader := o.realIpHeader.getD s.server.realIpHeader
    server.destUrlTemplate := o.destUrlTemplate.getD s.server.destUrlTemplate
    models.stockModelMap := o.stockModelMap.getD s.models.stockModelMap
    server.logRetentionSecs := o.logRetentionSecs.getD s.server.logRetentionSecs }

/-- A model map is needed whatever the program does. -/
def validateModels (s : Settings) : Except String Unit :=
  if s.models.stockModelMap.isEmpty then throw "Specify --stock-model-map to use" else pure ()

/-- Everything serving needs, giving the redirect template. -/
def validateServe (s : Settings) : Except String RedirectTemplate := do
  s.validateModels
  if s.server.listen.isEmpty then throw "Specify --listen-addr to serve on"
  if s.server.logRetentionSecs = 0 then throw "--log-retention-secs must be greater than zero"
  match RedirectTemplate.parse s.server.destUrlTemplate with
  | .ok t => pure t
  | .error e => throw e.message

/-- The client address header, when one is set. -/
def realIpHeader? (s : Settings) : Option String :=
  if s.server.realIpHeader.isEmpty then none else some s.server.realIpHeader

end Settings

/-- Append `rest` to the path `base`: an absolute `rest` replaces `base`, and otherwise a
separator goes between them when `base` is non-empty and does not end in one. -/
def joinPath (base rest : String) : String :=
  if rest.startsWith "/" then rest
  else if base.isEmpty || base.endsWith "/" then base ++ rest
  else base ++ "/" ++ rest

/-- Resolve a leading home directory: with a home directory known, "~" is that directory and
"~/rest" is the directory joined with "rest". Every other path is kept. -/
def homeRelative (path : String) (home : Option String) : String :=
  match path.toList, home with
  | ['~'], some h => h
  | '~' :: '/' :: rest, some h => joinPath h (String.ofList rest)
  | _, _ => path

/-- The join rule, case by case. -/
theorem joinPath_eq (base rest : String) : joinPath base rest =
    if rest.startsWith "/" then rest
    else base ++ (if base ≠ "" ∧ ¬ base.endsWith "/" then "/" else "") ++ rest := by
  unfold joinPath
  by_cases hr : rest.startsWith "/" <;> by_cases he : base = "" <;>
    by_cases hs : base.endsWith "/" <;> simp_all [String.append_assoc]

theorem toList_tilde : "~".toList = ['~'] := by decide

theorem toList_tilde_slash (r : String) : ("~/" ++ r).toList = '~' :: '/' :: r.toList := by
  simp [String.toList_append]

/-- With a home directory, `~` is that directory. -/
theorem homeRelative_tilde (h : String) : homeRelative "~" (some h) = h := by
  simp [homeRelative, toList_tilde]

/-- With a home directory, `~/rest` is `rest` joined to it. -/
theorem homeRelative_tilde_slash (h r : String) :
    homeRelative ("~/" ++ r) (some h) = joinPath h r := by
  simp [homeRelative]

/-- Without a home directory every path is kept. -/
theorem homeRelative_none (p : String) : homeRelative p none = p := by
  unfold homeRelative
  split <;> simp_all

/-- A path that is neither `~` nor starts with `~/` is kept. -/
theorem homeRelative_other (p h : String) (h1 : p ≠ "~") (h2 : ∀ r, p ≠ "~/" ++ r) :
    homeRelative p (some h) = p := by
  unfold homeRelative
  split
  · rename_i hp _
    exact absurd (String.toList_inj.mp (by rw [hp, toList_tilde])) h1
  · rename_i rest _ hp _
    exact absurd (String.toList_inj.mp (by rw [hp, toList_tilde_slash, String.toList_ofList]))
      (h2 (String.ofList rest))
  · rfl

/-- The model map path of the settings, resolved against the home directory. -/
def Settings.stockModelMapPath (s : Settings) (home : Option String) : String :=
  homeRelative s.models.stockModelMap home

end FirmwareRedirect
