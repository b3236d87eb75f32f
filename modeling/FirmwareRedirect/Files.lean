import FirmwareRedirect.Text.Split
/-!
# Reading files

The library reads files through a view of the file system: a function that gives the bytes of
a file, or the fault that kept it from being read. Reading can fail because the file is
missing, because the path names a directory, or because its bytes are not UTF-8; each fault has
the text an operating system gives for it.

Text files are read line by line: a line ends at a line feed, and one carriage return before
the feed is dropped with it. A final line without a feed still counts, and keeps a carriage
return at its end. An empty file has no lines, and the lines up to the first one that is not
UTF-8 are read before the fault.
-/

namespace FirmwareRedirect

/-- Why a file could not be read as text. -/
inductive ReadFault where
  | notFound
  | isDirectory
  | notDirectory
  | notUtf8
  /-- Any other fault the operating system reports, with its code and description. -/
  | system (code : Nat) (description : String)
  deriving DecidableEq, Repr

/-- The text of a fault reported by the operating system: its description and code. -/
def systemErrorText (code : Nat) (description : String) : String :=
  description ++ " (os error " ++ toString code ++ ")"

/-- The text of a read fault. -/
def ReadFault.message : ReadFault → String
  | .notFound => "No such file or directory (os error 2)"
  | .isDirectory => "Is a directory (os error 21)"
  | .notDirectory => "Not a directory (os error 20)"
  | .notUtf8 => "stream did not contain valid UTF-8"
  | .system code description => systemErrorText code description

/-- The file system as the library sees it: the bytes at each path, or why there are none. -/
abbrev FileView := String → Except ReadFault ByteArray

/-- A view in which only `path` may be read, with the outcome given. -/
def FileView.only (path : String) (outcome : Except ReadFault ByteArray) : FileView :=
  fun p => if p = path then outcome else .error .notFound

/-- A view holding the given files and nothing else. -/
def FileView.ofList (files : List (String × ByteArray)) : FileView :=
  fun p => match files.lookup p with
    | some bytes => .ok bytes
    | none => .error .notFound

/-- Read a path inside one directory that holds only the given files, seen from inside it. The
parts of the path between separators are taken in turn, skipping empty parts and `.`: no part
left names the directory itself, a file must be the last part, and a part that leaves the
directory or is missing names nothing. -/
def readInDirectory (files : List (String × ByteArray)) :
    List String → Except ReadFault ByteArray
  | [] => .error .isDirectory
  | part :: rest =>
    if part.isEmpty || part = "." then readInDirectory files rest
    else match files.lookup part with
      | some bytes => if rest.isEmpty then .ok bytes else .error .notDirectory
      | none => .error .notFound

/-- The view from inside a directory that holds the given files and nothing else. The empty
path and absolute paths name nothing. -/
def FileView.ofDirectory (files : List (String × ByteArray)) : FileView := fun p =>
  if p.isEmpty || p.startsWith "/" then .error .notFound
  else readInDirectory files (p.splitOn "/")

/-- Whether something exists at a path: a file, or a directory. -/
def FileView.exists (files : FileView) (path : String) : Bool :=
  match files path with
  | .error .notFound => false
  | _ => true

/-- The text of a whole file. -/
def FileView.text (files : FileView) (path : String) : Except ReadFault String := do
  let bytes ← files path
  match String.fromUTF8? bytes with
  | none => .error .notUtf8
  | some text => .ok text

/-- The byte that ends a line. -/
def lineFeed : UInt8 := 10

/-- The byte dropped at the end of a line. -/
def carriageReturn : UInt8 := 13

/-- A line that ended with a feed, without the carriage return before the feed. -/
def dropReturn (l : List UInt8) : List UInt8 :=
  if l.getLast? = some carriageReturn then l.dropLast else l

/-- The lines of a file as bytes, without their ends. Every piece before the last ended with a
feed; the last one did only when it is empty, and is then no line at all. -/
def byteLines (bytes : List UInt8) : List (List UInt8) :=
  let pieces := Text.splitOn lineFeed bytes
  match pieces.getLast? with
  | some [] => pieces.dropLast.map dropReturn
  | some last => pieces.dropLast.map dropReturn ++ [last]
  | none => []

/-- Decode lines until the first one that is not UTF-8. -/
def decodeLines : List (List UInt8) → List String × Option ReadFault
  | [] => ([], none)
  | l :: ls =>
    match String.fromUTF8? (ByteArray.mk l.toArray) with
    | none => ([], some .notUtf8)
    | some s => let r := decodeLines ls; (s :: r.1, r.2)

/-- The lines of a file that can be read, and the fault that ended the reading early. -/
def FileView.lines (files : FileView) (path : String) : List String × Option ReadFault :=
  match files path with
  | .error f => ([], some f)
  | .ok bytes => decodeLines (byteLines bytes.toList)

end FirmwareRedirect
