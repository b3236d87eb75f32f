/-!
# Request targets

A request names its resource by a URI in one of four forms: the origin form `/path?query`, the
absolute form `scheme://authority/path?query`, the authority form `host:port`, and `*`. Routing
looks at the path alone, as written, without decoding percent escapes. A fragment after `#`
is dropped.

The characters allowed are those of the URI grammar, with some leniency: a path may also hold
`"`, `{`, `}` and any non-ASCII character (but not the ASCII delete character), and a query most
printable characters and delete. An absolute
URI has a non-empty authority; its path is `/` when none is written. The authority form has an
empty path. A target longer than 65534 bytes is refused.
-/

namespace FirmwareRedirect.Http

/-- Why a request target could not be read. -/
inductive TargetError where
  | empty
  | tooLong
  | invalidChar
  | invalidAuthority
  | invalidFormat
  | schemeTooLong
  deriving DecidableEq, Repr

/-- The text of a target error. -/
def TargetError.message : TargetError → String
  | .empty => "empty string"
  | .tooLong => "uri too long"
  | .invalidChar => "invalid uri character"
  | .invalidAuthority => "invalid authority"
  | .invalidFormat => "invalid format"
  | .schemeTooLong => "scheme too long"

/-- The longest target accepted, in bytes. -/
def maxTargetBytes : Nat := 65534

/-- The longest scheme accepted. -/
def maxSchemeLength : Nat := 64

/-- Whether a character may stand in a path as it is. -/
def isPathChar (c : Char) : Bool :=
  let v := c.toNat
  v = 0x21 || (0x24 ≤ v && v ≤ 0x3B) || v = 0x3D || (0x40 ≤ v && v ≤ 0x5F) ||
    (0x61 ≤ v && v ≤ 0x7A) || v = 0x7C || v = 0x7E || v ≥ 0x80 ||
    c = '"' || c = '\x7b' || c = '\x7d'

/-- Whether a character may stand in a query as it is. -/
def isQueryChar (c : Char) : Bool :=
  let v := c.toNat
  v = 0x21 || (0x24 ≤ v && v ≤ 0x3B) || v = 0x3D || (0x3F ≤ v && v ≤ 0x7E) || v ≥ 0x7F

/-- Check a query up to its fragment. -/
def checkQuery : List Char → Except TargetError Unit
  | [] => .ok ()
  | '#' :: _ => .ok ()
  | c :: cs => if isQueryChar c then checkQuery cs else .error .invalidChar

/-- The path of a path-and-query part: the text before `?` or `#`, after checking the
characters up to the fragment. -/
def pathOf : List Char → Except TargetError (List Char)
  | [] => .ok []
  | '?' :: cs => do checkQuery cs; pure []
  | '#' :: _ => .ok []
  | c :: cs => if isPathChar c then (c :: ·) <$> pathOf cs else .error .invalidChar

/-- Whether a character may stand in a scheme. -/
def isSchemeChar (c : Char) : Bool :=
  c.isAlphanum || c = '+' || c = '-' || c = '.'

/-- The length of a scheme written before `://` at the front, when there is one. -/
def schemeLength (cs : List Char) : Except TargetError (Option Nat) :=
  let lower := cs.map Char.toLower
  if lower.take 7 = "http://".toList then .ok (some 4)
  else if lower.take 8 = "https://".toList then .ok (some 5)
  else if cs.length ≤ 3 then .ok none
  else
    let name := cs.takeWhile isSchemeChar
    match cs.drop name.length with
    | ':' :: '/' :: '/' :: _ =>
      if name.length > maxSchemeLength then .error .schemeTooLong else .ok (some name.length)
    | _ => .ok none

/-- Whether a character may stand in an authority, not counting `%`. -/
def isAuthorityChar (c : Char) : Bool :=
  c.isAlphanum || "!$&'()*+,-.;=_~:[]@".contains c

/-- What a scan of an authority has seen so far. -/
structure AuthorityScan where
  colons : Nat := 0
  openBracket : Bool := false
  closeBracket : Bool := false
  percent : Bool := false
  lastAt : Option Nat := none

/-- Scan an authority from position `i`; gives the position where it ends. -/
def scanAuthority (st : AuthorityScan) (i : Nat) : List Char → Except TargetError (AuthorityScan × Nat)
  | [] => .ok (st, i)
  | c :: cs =>
    if c = '/' || c = '?' || c = '#' then .ok (st, i)
    else if c = ':' then
      if st.colons ≥ 8 then .error .invalidAuthority
      else scanAuthority { st with colons := st.colons + 1 } (i + 1) cs
    else if c = '[' then
      if st.percent || st.openBracket then .error .invalidAuthority
      else scanAuthority { st with openBracket := true } (i + 1) cs
    else if c = ']' then
      if !st.openBracket || st.closeBracket then .error .invalidAuthority
      else scanAuthority { st with closeBracket := true, colons := 0, percent := false } (i + 1) cs
    else if c = '@' then
      scanAuthority { st with lastAt := some i, colons := 0, percent := false } (i + 1) cs
    else if c = '%' then scanAuthority { st with percent := true } (i + 1) cs
    else if isAuthorityChar c then scanAuthority st (i + 1) cs
    else .error .invalidChar

/-- The length of the authority at the front. -/
def authorityLength (cs : List Char) : Except TargetError Nat := do
  let (st, n) ← scanAuthority {} 0 cs
  if st.openBracket != st.closeBracket then throw .invalidAuthority
  if st.colons > 1 then throw .invalidAuthority
  if n > 0 && st.lastAt = some (n - 1) then throw .invalidAuthority
  if st.percent then throw .invalidAuthority
  pure n

/-- The path of a request target, as routing sees it. -/
def targetPath (target : String) : Except TargetError String := do
  let cs := target.toList
  if target.utf8ByteSize > maxTargetBytes then throw .tooLong
  match cs with
  | [] => throw .empty
  | ['/'] => pure "/"
  | ['*'] => pure "*"
  | [_] =>
    let n ← authorityLength cs
    if n ≠ 1 then throw .invalidChar
    pure ""
  | '/' :: _ => String.ofList <$> pathOf cs
  | _ =>
    match ← schemeLength cs with
    | none =>
      let n ← authorityLength cs
      if n ≠ cs.length then throw .invalidFormat
      pure ""
    | some k =>
      let rest := cs.drop (k + 3)
      let n ← authorityLength rest
      if n = 0 then throw .invalidFormat
      let path ← pathOf (rest.drop n)
      pure (if path.isEmpty then "/" else String.ofList path)

end FirmwareRedirect.Http
