import FirmwareRedirect.Models.Table
import FirmwareRedirect.Yaml.Document
import FirmwareRedirect.Yaml.Scalar
import FirmwareRedirect.Text.Unicode.Properties
/-!
# Model tables from YAML

A model table file holds one document, a mapping whose `models` entry maps device prefixes to
model names. Other top-level entries are ignored; a missing, empty or null-free empty value
gives an empty table. Every scalar counts as text, so `1`, `true` and `~` are the names "1",
"true" and "~". A later entry for a key replaces an earlier one.

An error names the path of the value it is about (`models.SHSW`) and, when it is not at the very
start, its line and column.
-/

namespace FirmwareRedirect

open Yaml Decode

/-- The way to a value from the document root, for messages. -/
inductive YamlPath where
  | root
  | key (parent : YamlPath) (k : String)
  /-- A value under a key that is not a scalar. -/
  | unknown (parent : YamlPath)
  /-- The value an alias refers to. -/
  | alias (parent : YamlPath)

/-- The text of a path: `.` for the root, keys joined by dots. -/
def YamlPath.text : YamlPath → String
  | .root => "."
  | .key p k => (match p with
    | .root => ""
    | _ => p.text ++ ".") ++ k
  | .unknown p => (match p with
    | .root => ""
    | _ => p.text ++ ".") ++ "?"
  | .alias p => p.text

/-- Why a YAML model table could not be read. -/
inductive YamlMapError where
  /-- A value of the wrong kind, with where it is when known. -/
  | message (text : String) (place : Option (Mark × YamlPath))
  | malformed (e : YamlError)
  | endOfStream
  | moreThanOneDocument
  | unknownAnchor (m : Mark)

/-- The text of an error. -/
def YamlMapError.render : YamlMapError → String
  | .message t none => t
  | .message t (some (m, p)) =>
    let pre := if p.text == "." then "" else p.text ++ ": "
    pre ++ t ++ (if m.isSet then " at " ++ m.text else "")
  | .malformed e => e.render
  | .endOfStream => "EOF while parsing a value"
  | .moreThanOneDocument =>
    "deserializing from YAML containing more than one document is not supported"
  | .unknownAnchor m => "unknown anchor" ++ (if m.isSet then " at " ++ m.text else "")

/-- Give an error without a place the place of the value being read. -/
def YamlMapError.at (e : YamlMapError) (m : Mark) (p : YamlPath) : YamlMapError :=
  match e with
  | .message t none => .message t (some (m, p))
  | e => e

/-- The event at an index; past the end, the document's own error. -/
def eventAt (doc : Document) (i : Nat) : Except YamlMapError (DocEvent × Mark) :=
  match doc.events[i]? with
  | some e => .ok e
  | none =>
    match doc.error with
    | some (.malformed e) => .error (.malformed e)
    | some (.unknownAnchor m) => .error (.unknownAnchor m)
    | none => .error .endOfStream

/-- The error for an event found where `expected` was wanted. -/
def eventMismatch (ev : DocEvent) (expected : String) : YamlMapError :=
  match ev with
  | .scalar tag v style => .message (scalarMismatch tag v style expected) none
  | .sequenceStart => .message (invalidType .positional .seq expected) none
  | .mappingStart => .message (invalidType .positional .map expected) none
  | _ => .endOfStream

/-- Read the text of a scalar, following aliases. -/
def readText (doc : Document) (expected : String) : Nat → YamlPath → Nat → Except YamlMapError (String × Nat)
  | 0, _, _ => .error .endOfStream
  | fuel + 1, path, i => do
    let (ev, m) ← eventAt doc i
    match ev with
    | .scalar _ v _ => pure (v, i + 1)
    | .alias t => do
      let (v, _) ← readText doc expected fuel (.alias path) t
      pure (v, i + 1)
    | ev => throw ((eventMismatch ev expected).at m path)

/-- Step over one node, however deep. -/
def skipNode (doc : Document) : Nat → Nat → Nat → Except YamlMapError Nat
  | 0, _, i => pure i
  | fuel + 1, depth, i => do
    let (ev, _) ← eventAt doc i
    let depth := match ev with
      | .sequenceStart | .mappingStart => depth + 1
      | .sequenceEnd | .mappingEnd => depth - 1
      | _ => depth
    if depth == 0 then pure (i + 1) else skipNode doc fuel depth (i + 1)

/-- Whether an event ends a mapping's entries. -/
def Yaml.DocEvent.endsEntries : DocEvent → Bool
  | .mappingEnd | .empty => true
  | _ => false

/-- Whether an event stands for an empty map: an empty document or an empty plain scalar. -/
def Yaml.DocEvent.isEmptyMap : DocEvent → Bool
  | .empty => true
  | .scalar _ v .plain => v.isEmpty
  | _ => false

/-- The path of the value under a key event. -/
def valuePath (path : YamlPath) : DocEvent → YamlPath
  | .scalar _ k _ => .key path k
  | _ => .unknown path

/-- Read the entries of a models mapping into `t`, up to its end. -/
def modelEntries (doc : Document) (fuel : Nat) (path : YamlPath) :
    Nat → ModelTable → Nat → Except YamlMapError (ModelTable × Nat)
  | 0, t, i => pure (t, i)
  | n + 1, t, i => do
    let (ev, _) ← eventAt doc i
    if ev.endsEntries then return (t, i + 1)
    let (k, i) ← readText doc "a string" fuel path i
    let (v, i) ← readText doc "a string" fuel (valuePath path ev) i
    modelEntries doc fuel path n (t.insert k v) i

/-- Read the models mapping. -/
def readModels (doc : Document) : Nat → YamlPath → Nat → Except YamlMapError (ModelTable × Nat)
  | 0, _, _ => .error .endOfStream
  | fuel + 1, path, i => do
    let (ev, m) ← eventAt doc i
    match ev with
    | .alias t => do
      let (tbl, _) ← readModels doc fuel (.alias path) t
      pure (tbl, i + 1)
    | .mappingStart =>
      (modelEntries doc fuel path doc.events.size ModelTable.empty (i + 1)).mapError (·.at m path)
    | ev =>
      if ev.isEmptyMap then pure (ModelTable.empty, i + 1)
      else throw ((eventMismatch ev "a map").at m path)

/-- Read the top-level entries into the table found so far, if any. -/
def topEntries (doc : Document) (fuel : Nat) (path : YamlPath) :
    Nat → Option ModelTable → Nat → Except YamlMapError (Option ModelTable × Nat)
  | 0, t, i => pure (t, i)
  | n + 1, t, i => do
    let (ev, _) ← eventAt doc i
    if ev.endsEntries then return (t, i + 1)
    let (k, i) ← readText doc "field identifier" fuel path i
    if k == "models" then
      if t.isSome then throw (.message "duplicate field \x60models\x60" none)
      let (tbl, i) ← readModels doc fuel (valuePath path ev) i
      topEntries doc fuel path n (some tbl) i
    else
      let i ← skipNode doc doc.events.size 0 i
      topEntries doc fuel path n t i

/-- Read the top-level mapping of a model table document. -/
def readModelDocument (doc : Document) : Nat → YamlPath → Nat → Except YamlMapError (ModelTable × Nat)
  | 0, _, _ => .error .endOfStream
  | fuel + 1, path, i => do
    let (ev, m) ← eventAt doc i
    match ev with
    | .alias t => do
      let (tbl, _) ← readModelDocument doc fuel (.alias path) t
      pure (tbl, i + 1)
    | .mappingStart =>
      let (t, j) ← (topEntries doc fuel path doc.events.size none (i + 1)).mapError (·.at m path)
      pure (t.getD ModelTable.empty, j)
    | ev =>
      if ev.isEmptyMap then pure (ModelTable.empty, i + 1)
      else throw ((eventMismatch ev "struct StockModelMap").at m path)

/-- Read a model table from YAML text. A text of white space only is an empty table. -/
def ModelTable.ofYaml (text : String) : Except YamlMapError ModelTable :=
  if Text.isBlank text then .ok ModelTable.empty
  else
    match Loader.start text with
    | .error e => .error (.malformed e)
    | .ok loader =>
      match loader.nextDocument with
      | (none, _) => .error .endOfStream
      | (some doc, loader) => do
        let (t, _) ← readModelDocument doc (doc.events.size + 2) .root 0
        if let some e := doc.error then
          match e with
          | .malformed e => throw (.malformed e)
          | .unknownAnchor m => throw (.unknownAnchor m)
        match loader.nextDocument with
        | (some _, _) => throw .moreThanOneDocument
        | (none, _) => pure t

end FirmwareRedirect
