import FirmwareRedirect.Models.YamlMap
import FirmwareRedirect.Models.JsonMap
import FirmwareRedirect.Files
/-!
# Loading a model table file

A model table file is JSON when its extension is `json` in any case, and YAML otherwise (YAML
also reads most JSON). The file must be UTF-8 text.
-/

namespace FirmwareRedirect

/-- Why a model table file could not be loaded. -/
inductive ModelMapError where
  | read (path : String) (fault : ReadFault)
  | yaml (path : String) (e : YamlMapError)
  | json (path : String) (e : Json.JsonError)

/-- The text of a load error. -/
def ModelMapError.message : ModelMapError → String
  | .read p f => "failed to read " ++ p ++ ": " ++ f.message
  | .yaml p e => "invalid YAML in " ++ p ++ ": " ++ e.render
  | .json p e => "invalid JSON in " ++ p ++ ": " ++ e.render

/-- The last component of a path, when it names a file: not `..`, and not empty. -/
def fileName? (path : String) : Option String :=
  let parts := (path.splitOn "/").filter (fun p => !p.isEmpty && p != ".")
  match parts.getLast? with
  | some ".." => none
  | some p => some p
  | none => none

/-- The extension of a path: what follows the last dot of its file name, unless that dot
starts the name. -/
def fileExtension? (path : String) : Option String :=
  (fileName? path).bind fun name =>
    match name.splitOn "." with
    | [] | [_] => none
    | pieces =>
      let before := ".".intercalate pieces.dropLast
      if before.isEmpty then none else pieces.getLast?

/-- Whether a path names a JSON file. -/
def isJsonPath (path : String) : Bool :=
  match fileExtension? path with
  | some ext => String.ofList (ext.toList.map Char.toLower) == "json"
  | none => false

/-- Parse the text of a model table file named `path`. -/
def ModelTable.ofText (path text : String) : Except ModelMapError ModelTable :=
  if isJsonPath path then (ModelTable.ofJson text).mapError (.json path)
  else (ModelTable.ofYaml text).mapError (.yaml path)

/-- Load a model table file. -/
def ModelTable.load (files : FileView) (path : String) : Except ModelMapError ModelTable :=
  match files.text path with
  | .error f => .error (.read path f)
  | .ok text => ModelTable.ofText path text

end FirmwareRedirect
