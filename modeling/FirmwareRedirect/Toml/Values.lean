import FirmwareRedirect.Toml.Numbers
import FirmwareRedirect.Toml.Tree
/-!
# TOML keys and values

A key is a dotted path of bare (`a-z A-Z 0-9 - _`), basic or literal parts. A value is chosen by
its first byte: a string, an array, an inline table, a number or date, or a boolean. Arrays may
spread over lines with comments between their values and end with a comma; inline tables stay on
one line and may not.
-/

namespace FirmwareRedirect.Toml

open Reader

/-- Bytes of a bare key. -/
def isBareKeyByte (b : UInt8) : Bool :=
  (65 ≤ b && b ≤ 90) || (97 ≤ b && b ≤ 122) || isDigit b || b == ascii '-' || b == ascii '_'

/-- One part of a key, with its span. -/
def simpleKey : Reader Key := do
  let (name, span) ← withSpan do
    match ← peek? with
    | some 34 => basicString
    | some 39 => literalString
    | _ => recognize (takeWhile isBareKeyByte 1)
  return ⟨name, some span⟩

/-- A dotted key. -/
def key : Reader (List Key) :=
  label "key" <| sepBy1 (do ws; let k ← simpleKey; ws; return k) (byte (ascii '.'))

/-- The hints of a value that is not a number and not quoted: read as a string would have been. -/
def asString {α : Type} (r : Reader α) : Reader α :=
  expect "`'`" (expect "`\"`" (label "string" r))

mutual

/-- A value, reading at most `fuel` levels of nesting. -/
def value : Nat → Reader Node
  | 0 => fail
  | fuel + 1 => do
    let start ← get
    let scalarAt (v : Scalar) : Reader Node := do return .scalar v ⟨start, ← get⟩
    match ← peek? with
    | some 34 | some 39 => do let s ← string; scalarAt (.string s)
    | some 91 => array fuel
    | some 123 => inlineTable fuel
    | some b =>
      if b == ascii '+' || b == ascii '-' || isDigit b then
        alt [do let t ← dateTime; scalarAt (.datetime t),
             do let f ← float; scalarAt (.float f),
             do let n ← integer; scalarAt (.integer n)]
      else if b == ascii '_' then
        expect "leading digit" do let n ← integer; scalarAt (.integer n)
      else if b == ascii '.' then
        expect "leading digit" do let f ← float; scalarAt (.float f)
      else if b == ascii 't' then asString do let v ← trueLit; scalarAt (.boolean v)
      else if b == ascii 'f' then asString do let v ← falseLit; scalarAt (.boolean v)
      else if b == ascii 'i' then
        asString do literal "inf"; scalarAt (.float (Number.DecimalValue.infinity false).toFloat)
      else if b == ascii 'n' then
        asString do literal "nan"; scalarAt (.float (Number.DecimalValue.nan false).toFloat)
      else asString fail
    | none => fail

/-- An array value with the blanks and comments around it. -/
def arrayValue : Nat → Reader Node
  | fuel => do
    wsCommentNewline
    let v ← value fuel
    wsCommentNewline
    return v

/-- An array, `[…]`. -/
def array : Nat → Reader Node
  | fuel => do
    let start ← get
    byte (ascii '[')
    let elems ← cut do
      let vs ← opt do
        let vs ← sepBy1 (arrayValue fuel) (byte (ascii ','))
        let _ ← opt (byte (ascii ','))
        return vs
      wsCommentNewline
      return vs.getD []
    expect "`]`" (label "array" (cut (byte (ascii ']'))))
    return .array elems ⟨start, ← get⟩

/-- A key-value pair inside an inline table. -/
def inlineKeyval : Nat → Reader (List Key × Key × Node)
  | fuel => do
    let path ← key
    cut do
      expect "`=`" (expect "`.`" (byte (ascii '=')))
      ws
      let v ← value fuel
      ws
      match path.reverse with
      | k :: before => return (before.reverse, k, v)
      | [] => fail

/-- An inline table, `{…}`. -/
def inlineTable : Nat → Reader Node
  | fuel => do
    let start ← get
    byte (ascii '{')
    let inner ← get
    let pairs ← cut do
      let pairs ← sepBy (inlineKeyval fuel) (byte (ascii ','))
      ws
      return pairs
    let node ← match inlineTableOf pairs ⟨start, start⟩ with
      | .ok n => pure n
      | .error e => throw { pos := inner, cause := some e.message, final := true }
    expect "`\x7d`" (label "inline table" (cut (byte (ascii '}'))))
    match node with
    | .table es info => return .table es { info with span := some ⟨start, ← get⟩ }
    | n => return n

end

end FirmwareRedirect.Toml
