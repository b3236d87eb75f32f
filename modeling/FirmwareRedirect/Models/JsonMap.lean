import FirmwareRedirect.Models.Table
import FirmwareRedirect.Json.Reader
/-!
# Model tables from JSON

A JSON model table is an object whose `models` member is an object of strings; other members
are skipped, and a missing `models` gives an empty table. The document may also be an array
whose first element is the `models` object. A later member with the same key replaces an
earlier one. Nothing but white space may follow the document.
-/

namespace FirmwareRedirect

open Json JsonRead

/-- The error for a failure that did not say where it happened: the current position. -/
def placeHere (message : String) : JsonRead JsonError := do
  let (l, c) := positionOf (← read) (← get)
  pure ⟨message, l, c⟩

/-- Read a string value. -/
def jsonString : JsonRead String := do
  match ← space with
  | none => failAhead "EOF while parsing a value"
  | some 34 =>
    bump
    string
  | some _ => throw (← mismatch "a string")

/-- Step over the comma or first-entry state before the next key, giving whether there is
one. -/
def nextKey (first : Bool) : JsonRead Bool := do
  let b ← match ← space with
    | some 125 => return false
    | some 44 =>
      if first then failAhead "key must be a string"
      else do
        bump
        space
    | some b =>
      if first then pure (some b) else failAhead "expected \x60,\x60 or \x60\x7d\x60"
    | none => failAhead "EOF while parsing an object"
  match b with
  | some 34 =>
    bump
    pure true
  | some 125 => failAhead "trailing comma"
  | some _ => failAhead "key must be a string"
  | none => failAhead "EOF while parsing a value"

/-- Step over the colon after a key. -/
def colon : JsonRead Unit := do
  match ← space with
  | some 58 => bump
  | some _ => failAhead "expected \x60:\x60"
  | none => failAhead "EOF while parsing an object"

/-- Check the end of an object after its members. -/
def endObject : JsonRead Unit := do
  match ← space with
  | some 125 => bump
  | some 44 => failAhead "trailing comma"
  | some _ => failAhead "trailing characters"
  | none => failAhead "EOF while parsing an object"

/-- Check the end of an array after the elements that were read. -/
def endArray : JsonRead Unit := do
  match ← space with
  | some 93 => bump
  | some 44 =>
    bump
    match ← space with
    | some 93 => failAhead "trailing comma"
    | _ => failAhead "trailing characters"
  | some _ => failAhead "trailing characters"
  | none => failAhead "EOF while parsing a list"

/-- Read the members of the models object into `t`. -/
def modelMembers : Nat → Bool → ModelTable → JsonRead ModelTable
  | 0, _, t => pure t
  | n + 1, first, t => do
    if !(← nextKey first) then return t
    let k ← string
    colon
    let v ← jsonString
    modelMembers n false (t.insert k v)

/-- Read the models object. -/
def jsonModels : JsonRead ModelTable := do
  match ← space with
  | none => failAhead "EOF while parsing a value"
  | some 123 =>
    bump
    let t ← modelMembers (← budget) true ModelTable.empty
    endObject
    pure t
  | some _ => throw (← mismatch "a map")

/-- Read the members of the top-level object, with the models found so far. -/
def topMembers : Nat → Bool → Option ModelTable → JsonRead (Option ModelTable ⊕ String)
  | 0, _, t => pure (.inl t)
  | n + 1, first, t => do
    if !(← nextKey first) then return .inl t
    let k ← string
    if k == "models" then
      if t.isSome then return .inr "duplicate field \x60models\x60"
      colon
      let m ← jsonModels
      topMembers n false (some m)
    else
      colon
      skipValue (← budget) [] none
      topMembers n false t

/-- Read a model table document. -/
def jsonDocument : JsonRead ModelTable := do
  match ← space with
  | none => failAhead "EOF while parsing a value"
  | some 91 =>
    bump
    let t ← match ← space with
      | some 93 => pure ModelTable.empty
      | some _ => jsonModels
      | none => failAhead "EOF while parsing a list"
    endArray
    pure t
  | some 123 =>
    bump
    match ← topMembers (← budget) true none with
    | .inl t =>
      endObject
      pure (t.getD ModelTable.empty)
    | .inr message =>
      -- the end of the object is looked for before the failure is placed
      if (← space) == some 125 then bump
      throw (← placeHere message)
  | some _ => throw (← mismatch "struct StockModelMap")

/-- Read a model table from JSON text. -/
def ModelTable.ofJson (text : String) : Except JsonError ModelTable :=
  let r : JsonRead ModelTable := do
    let t ← jsonDocument
    match ← space with
    | some _ => failAhead "trailing characters"
    | none => pure t
  match (r.run text.toUTF8).run 0 with
  | .ok (t, _) => .ok t
  | .error e => .error e

end FirmwareRedirect
