import FirmwareRedirect.Models.Table
import FirmwareRedirect.Text.Quoted
import FirmwareRedirect.Text.Split
/-!
# Resolving a device to its firmware model

A device asking for an update sends its firmware version and its device ID. The ID is a device
token and a descriptor separated by exactly one space, such as `SHSW-25#ABC123 192.168.1.5`. The
family of the device is the token up to its first `-` (`SHSW`), and its designation is the token
up to its first `#` (`SHSW-25`). The family is looked up first; only when the table has no entry
for it is the designation tried. The value `x` marks a known device without a build, and a
missing or empty value an unknown one. A device that sends `-` as its version sent no model
information at all.
-/

namespace FirmwareRedirect

/-- Why a device could not be given a firmware model. -/
inductive ResolveError where
  /-- The device sent `-` as its firmware version. -/
  | noFirmwareInfo
  /-- The device ID is not a token and a descriptor separated by one space. -/
  | malformedDeviceId (id : String)
  /-- The table marks this key as known but without a build. -/
  | unsupportedModel (key : String)
  /-- The table has no usable entry; the device family is given. -/
  | unknownModel (family : String)
  deriving DecidableEq, Repr

/-- The text of a resolve error. -/
def ResolveError.message : ResolveError → String
  | .noFirmwareInfo => "device did not send model information"
  | .malformedDeviceId id => "unsupported device ID " ++ Text.quote id
  | .unsupportedModel key => "device model " ++ Text.quote key ++ " is not yet supported"
  | .unknownModel family => "unknown device model " ++ Text.quote family

/-- The warning written when a device's model is unknown, with the values it sent. -/
def unknownModelNote (fw id : String) : String := "unknown model: " ++ fw ++ " " ++ id

/-- The firmware version sent by devices that do not know theirs. -/
def noFirmwareVersion : String := "-"

/-- The table value that marks a known device without a build. -/
def unsupportedMarker : String := "x"

/-- The device token of a device ID, when the ID has exactly one space. -/
def deviceToken? (id : String) : Option (List Char) :=
  match Text.splitOn ' ' id.toList with
  | [token, _] => some token
  | _ => none

/-- The family of a device token: the text before its first `-`. -/
def family (token : List Char) : String := String.ofList (token.takeWhile (· ≠ '-'))

/-- The designation of a device token: the text before its first `#`. -/
def designation (token : List Char) : String := String.ofList (token.takeWhile (· ≠ '#'))

/-- The key a token is looked up under, and the entry found: the family when the table has
it, and the designation otherwise. -/
def lookupToken (t : ModelTable) (token : List Char) : String × Option String :=
  match t.get? (family token) with
  | some model => (family token, some model)
  | none => (designation token, t.get? (designation token))

/-- What an entry found under `key` means for a device of the given family. -/
def decideEntry (family key : String) : Option String → Except ResolveError String
  | some model =>
    if model = unsupportedMarker then .error (.unsupportedModel key)
    else if model = "" then .error (.unknownModel family)
    else .ok model
  | none => .error (.unknownModel family)

/-- The firmware model for a device's firmware version and ID. -/
def ModelTable.resolve (t : ModelTable) (fw id : String) : Except ResolveError String :=
  if fw = noFirmwareVersion then .error .noFirmwareInfo
  else
    match deviceToken? id with
    | none => .error (.malformedDeviceId id)
    | some token =>
      let (key, entry) := lookupToken t token
      decideEntry (family token) key entry

end FirmwareRedirect
