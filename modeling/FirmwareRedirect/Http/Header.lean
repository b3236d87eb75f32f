import FirmwareRedirect.Text.Lossy
/-!
# Header fields

A header name is a non-empty run of token characters: letters, digits and
``!#$%&'*+-.^_`|~``. Names compare without regard to ASCII case, so a name is kept in
lowercase. A header value is bytes: tab, and every byte from the space up except DEL. A
request may carry a name more than once; a look-up finds the first.

A value read as text is decoded as UTF-8 with replacement, and an empty value counts as
absent.
-/

namespace FirmwareRedirect.Http

/-- Whether a character may stand in a token: a header name or a method. -/
def isTokenChar (c : Char) : Bool :=
  c.isAlphanum || "!#$%&'*+-.^_\x60|~".contains c

/-- A header name, in lowercase. -/
structure HeaderName where
  text : String
  deriving DecidableEq, Repr

/-- Read a header name; it is kept in lowercase. -/
def HeaderName.parse? (s : String) : Option HeaderName :=
  if !s.isEmpty && s.toList.all isTokenChar then some ⟨s.toLower⟩ else none

/-- Why a header name was refused. -/
def invalidHeaderName : String := "invalid HTTP header name"

/-- Whether a byte may stand in a header value. -/
def isValueByte (b : UInt8) : Bool := b = 9 || (32 ≤ b && b ≠ 127)

/-- A header value: bytes that may stand in one. -/
structure HeaderValue where
  bytes : List UInt8
  deriving DecidableEq, Repr

/-- Read a header value. -/
def HeaderValue.parse? (bytes : List UInt8) : Option HeaderValue :=
  if bytes.all isValueByte then some ⟨bytes⟩ else none

/-- Why a header value was refused. -/
def invalidHeaderValue : String := "failed to parse header value"

/-- The header fields of a message, in the order they were added. -/
abbrev Headers := List (HeaderName × HeaderValue)

/-- The first value under a name; a name that is not valid is never found. -/
def Headers.get? (hs : Headers) (name : String) : Option HeaderValue :=
  (HeaderName.parse? name).bind fun n => (hs.find? (·.1 == n)).map (·.2)

/-- The first value under a name as text, when it is there and not empty. -/
def Headers.text? (hs : Headers) (name : String) : Option String :=
  match hs.get? name with
  | some v => if v.bytes.isEmpty then none else some (Text.decodeLossy v.bytes)
  | none => none

/-- A value holding the bytes of a non-empty text reads back as that text. -/
theorem Headers.text?_of_get? {hs : Headers} {name s : String}
    (h : hs.get? name = some ⟨s.toUTF8.toList⟩) (hne : s ≠ "") : hs.text? name = some s := by
  simp [Headers.text?, h, Text.toByteArray_toList_ne_nil hne]

end FirmwareRedirect.Http
