import FirmwareRedirect.Config.Settings
import FirmwareRedirect.Toml.Document
import FirmwareRedirect.Decode.Unexpected
import FirmwareRedirect.Files
/-!
# Loading settings

The settings file is a TOML document with the tables `server`, `models` and `logging`. Keys that
are not settings are ignored, and a missing key keeps its default. A settings table may also be
written as an array, which gives the fields in order.

A value of the wrong type is reported at the value, with the line it is on.
-/

namespace FirmwareRedirect

open Toml Decode

/-- A value that cannot be read as what it should be, and where it is. -/
structure DecodeError where
  message : String
  span : Option Span

/-- Give an error without a place the place `sp`. -/
def DecodeError.orSpan (e : DecodeError) (sp : Option Span) : DecodeError :=
  match e.span with
  | some _ => e
  | none => { e with span := sp }

/-- What a node is, as a found value. -/
def Toml.Node.unexpected : Node → Unexpected
  | .scalar (.string s) _ => .str s
  | .scalar (.integer n) _ => .signed n
  | .scalar (.float f) _ => .float f
  | .scalar (.boolean b) _ => .bool b
  | .scalar (.datetime _) _ => .map
  | .array _ _ => .seq
  | .table _ _ => .map
  | .tables _ => .seq

/-- The error for a node that is not what was expected. -/
def mismatch (n : Node) (expected : String) : DecodeError :=
  ⟨invalidType .positional n.unexpected expected, n.span?⟩

/-- Read a string. -/
def decodeString (n : Node) : Except DecodeError String :=
  match n with
  | .scalar (.string s) _ => .ok s
  | n => .error (mismatch n "a string")

/-- Read an unsigned 64-bit number. -/
def decodeU64 (n : Node) : Except DecodeError Nat :=
  match n with
  | .scalar (.integer i) sp =>
    if 0 ≤ i then .ok i.toNat else .error ⟨invalidValue .positional (.signed i) "u64", some sp⟩
  | n => .error (mismatch n "u64")

/-- How a struct's fields are given: by name, or in order. -/
inductive FieldSource where
  | named (entries : List (Key × Node))
  | positional (elems : List Node)

/-- The fields of a struct written as `n`. A date-time reads as a map with no field of the
struct. -/
def fieldSource (name : String) (n : Node) : Except DecodeError FieldSource :=
  match n with
  | .table es _ => .ok (.named es)
  | .scalar (.datetime _) _ => .ok (.named [])
  | .array elems _ => .ok (.positional elems)
  | .tables elems => .ok (.positional (elems.map fun e => .table e.1 e.2))
  | n => .error (mismatch n ("struct " ++ name))

/-- A field of a struct: its name and how its value changes the struct. -/
abbrev Field (α : Type) := String × (α → Node → Except DecodeError α)

/-- Read a struct named `name` with the given fields, starting from the defaults `init`. The
first field that fails stops the reading; its error points at the value, or else its key. -/
def decodeStruct {α : Type} (name : String) (fields : List (Field α)) (init : α) (n : Node) :
    Except DecodeError α := do
  match ← fieldSource name n with
  | .named es =>
    es.foldlM (fun acc (k, v) =>
      match fields.find? (·.1 == k.name) with
      | some (_, set) => (set acc v).mapError (·.orSpan (v.span?.or k.span))
      | none => pure acc) init
  | .positional elems =>
    (fields.zip elems).foldlM (fun acc ((_, set), v) =>
      (set acc v).mapError (·.orSpan v.span?)) init

/-- The fields of the server table. -/
def serverFields : List (Field ServerSettings) :=
  [("listen", fun s n => return { s with listen := ← decodeString n }),
   ("real_ip_header", fun s n => return { s with realIpHeader := ← decodeString n }),
   ("dest_url_template", fun s n => return { s with destUrlTemplate := ← decodeString n }),
   ("log_retention_secs", fun s n => return { s with logRetentionSecs := ← decodeU64 n }),
   ("shutdown_grace_secs", fun s n => return { s with shutdownGraceSecs := ← decodeU64 n })]

/-- The fields of the models table. -/
def modelFields : List (Field ModelSettings) :=
  [("stock_model_map", fun s n => return { s with stockModelMap := ← decodeString n })]

/-- The fields of the logging table. -/
def loggingFields : List (Field LoggingSettings) :=
  [("level", fun s n => return { s with level := ← decodeString n })]

/-- The tables of a settings file. -/
def settingsFields : List (Field Settings) :=
  [("server", fun s n => return { s with server := ← decodeStruct "ServerConfig" serverFields {} n }),
   ("models", fun s n => return { s with models := ← decodeStruct "ModelsConfig" modelFields {} n }),
   ("logging", fun s n =>
      return { s with logging := ← decodeStruct "LoggingConfig" loggingFields {} n })]

/-- Read settings from the text of a settings file, or give the report of what is wrong. -/
def Settings.ofToml (text : String) : Except String Settings :=
  match readDocument text.toUTF8 with
  | .error e => .error (e.render text)
  | .ok root =>
    match decodeStruct "Config" settingsFields {} root.toNode with
    | .ok s => .ok s
    | .error e => .error (TomlError.render text ⟨e.message, e.span⟩)

/-- The settings file read when none is named. -/
def defaultSettingsFile : String := "shelly-update-server.toml"

/-- Read the settings file at `path`. -/
def Settings.ofFile (files : FileView) (path : String) : Except String Settings :=
  match files.text path with
  | .error e => .error ("Failed to read config file " ++ path ++ ": " ++ e.message)
  | .ok text =>
    (Settings.ofToml text).mapError ("Failed to parse config file " ++ path ++ ": " ++ ·)

/-- Load the settings: from the named file, or else from the default file when it exists, or
else the defaults; then apply the environment. -/
def Settings.load (files : FileView) (env : String → Option String)
    (path : Option String) : Except String Settings := do
  let s ← match path with
    | some p => Settings.ofFile files p
    | none =>
      if files.exists defaultSettingsFile then Settings.ofFile files defaultSettingsFile
      else pure {}
  s.applyEnv env

end FirmwareRedirect
