import FirmwareRedirect.Yaml.Parser
import FirmwareRedirect.Decode.Unexpected
import FirmwareRedirect.Number.DecimalText
/-!
# What a YAML scalar stands for

A plain scalar without a tag is read by its text: empty, `~` and `null` are null; `true` and
`false` (also capitalised or in capitals) are booleans; then integers (decimal, or `0x`, `0o`,
`0b` with an optional sign), then floats (including `.inf` and `.nan`); anything else is a
string. A decimal with a leading zero, such as `007`, stays a string. A quoted scalar is always
a string. The standard tags `!!bool`, `!!int`, `!!float` and `!!null` demand their type, and a
local tag such as `!custom` on a plain scalar changes nothing.

These readings only matter for messages: they say what was found where something else was
wanted.
-/

namespace FirmwareRedirect.Yaml

open Decode

/-- Whether the text is a null. -/
def isNullText (s : String) : Bool := s == "null" || s == "Null" || s == "NULL" || s == "~"

/-- The boolean a text stands for. -/
def boolText? (s : String) : Option Bool :=
  if s == "true" || s == "True" || s == "TRUE" then some true
  else if s == "false" || s == "False" || s == "FALSE" then some false
  else none

/-- The value of a digit in a radix up to 36. -/
def digitIn (radix : Nat) (c : Char) : Option Nat :=
  let v :=
    if c.isDigit then c.toNat - '0'.toNat
    else if 'a' ≤ c && c ≤ 'z' then c.toNat - 'a'.toNat + 10
    else if 'A' ≤ c && c ≤ 'Z' then c.toNat - 'A'.toNat + 10
    else 36
  if v < radix then some v else none

/-- The value of a digit string, if every character is a digit of the radix. -/
def digitsValue (radix : Nat) : List Char → Nat → Option Nat
  | [], acc => some acc
  | c :: cs, acc => (digitIn radix c).bind fun d => digitsValue radix cs (acc * radix + d)

/-- Read a whole number the way an integer type of the range `[lo, hi]` reads its text: an
optional `+`, or `-` when the type is signed, then at least one digit of the radix. -/
def integerIn (radix : Nat) (lo hi : Int) (s : List Char) : Option Int :=
  let signed := lo < 0
  let parts : Option (Bool × List Char) :=
    match s with
    | ['+'] | ['-'] => none
    | '+' :: r => some (false, r)
    | '-' :: r => if signed then some (true, r) else some (false, s)
    | _ => some (false, s)
  match parts with
  | none => none
  | some (_, []) => none
  | some (neg, ds) =>
    match digitsValue radix ds 0 with
    | none => none
    | some v =>
      let n : Int := if neg then -(v : Int) else v
      if lo ≤ n && n ≤ hi then some n else none

/-- A text with a sign, then a leading zero and more digits: a string, not a number. -/
def digitsButNotNumber (s : String) : Bool :=
  let cs := match s.toList with
    | '+' :: r => r
    | '-' :: r => r
    | r => r
  cs.length > 1 && cs.head? == some '0' && (cs.drop 1).all Char.isDigit

/-- Read an unsigned number of the range `[0, hi]`: `0x`, `0o` or `0b` digits, or decimal
digits, after an optional `+`. -/
def unsignedText? (hi : Int) (s : String) : Option Int :=
  let cs := s.toList
  let unpositive := match cs with
    | '+' :: r => r
    | r => r
  let radixed (p : Char) (radix : Nat) : Option (Option Int) :=
    match unpositive with
    | '0' :: q :: rest =>
      if q != p then none
      else if rest.head? == some '+' || rest.head? == some '-' then some none
      else (integerIn radix 0 hi rest).map some
    | _ => none
  match radixed 'x' 16 with
  | some r => r
  | none =>
    match radixed 'o' 8 with
    | some r => r
    | none =>
      match radixed 'b' 2 with
      | some r => r
      | none =>
        if unpositive.head? == some '+' || unpositive.head? == some '-' then none
        else if digitsButNotNumber s then none
        else integerIn 10 0 hi unpositive

/-- Read a signed number of the range `[lo, hi]`: like the unsigned one, and also `-0x`,
`-0o`, `-0b` and a leading `-`. -/
def signedText? (lo hi : Int) (s : String) : Option Int :=
  let cs := s.toList
  let unpositive? : Option (List Char) := match cs with
    | '+' :: r => if r.head? == some '+' || r.head? == some '-' then none else some r
    | r => some r
  match unpositive? with
  | none => none
  | some unpositive =>
    let positive (p : Char) (radix : Nat) : Option (Option Int) :=
      match unpositive with
      | '0' :: q :: rest =>
        if q != p then none
        else if rest.head? == some '+' || rest.head? == some '-' then some none
        else (integerIn radix lo hi rest).map some
      | _ => none
    let negative (p : Char) (radix : Nat) : Option Int :=
      match cs with
      | '-' :: '0' :: q :: rest => if q == p then integerIn radix lo hi ('-' :: rest) else none
      | _ => none
    let attempt (p : Char) (radix : Nat) : Option (Option Int) :=
      match positive p radix with
      | some (some v) => some (some v)
      | some none => some none
      | none => (negative p radix).map some
    let attemptAll : Option (Option Int) :=
      match attempt 'x' 16 with
      | some (some v) => some (some v)
      | some none => some none
      | none =>
        match attempt 'o' 8 with
        | some (some v) => some (some v)
        | some none => some none
        | none =>
          match attempt 'b' 2 with
          | some (some v) => some (some v)
          | some none => some none
          | none => none
    match attemptAll with
    | some r => r
    | none => if digitsButNotNumber s then none else integerIn 10 lo hi unpositive

/-- The float a text stands for, when it is finite or one of the spelled-out infinities and
NaN. -/
def floatText? (s : String) : Option Float :=
  let cs := s.toList
  let unpositive? : Option String := match cs with
    | '+' :: r => if r.head? == some '+' || r.head? == some '-' then none else some (String.ofList r)
    | _ => some s
  match unpositive? with
  | none => none
  | some u =>
    if u == ".inf" || u == ".Inf" || u == ".INF" then some (Number.DecimalValue.infinity false).toFloat
    else if s == "-.inf" || s == "-.Inf" || s == "-.INF" then
      some (Number.DecimalValue.infinity true).toFloat
    else if s == ".nan" || s == ".NaN" || s == ".NAN" then some (Number.DecimalValue.nan false).toFloat
    else match Number.readDecimal? u with
      | some (.finite neg d k) =>
        let f := (Number.DecimalValue.finite neg d k).toFloat
        if f.isFinite then some f else none
      | _ => none

/-- An integer as the widest type that holds it would report it. -/
def integerFound (s : String) : Option Unexpected :=
  match unsignedText? (Nat.pow 2 64 - 1) s with
  | some n => some (.unsigned n.toNat)
  | none =>
    match signedText? (-(Nat.pow 2 63)) (Nat.pow 2 63 - 1) s with
    | some n => some (.signed n)
    | none =>
      match unsignedText? (Nat.pow 2 128 - 1) s with
      | some n => some (.other ("integer \x60" ++ toString n ++ "\x60 as u128"))
      | none =>
        match signedText? (-(Nat.pow 2 127)) (Nat.pow 2 127 - 1) s with
        | some n => some (.other ("integer \x60" ++ toString n ++ "\x60 as i128"))
        | none => none

/-- What an untagged plain scalar is. -/
def plainFound (s : String) : Unexpected :=
  if s.isEmpty || isNullText s then .unit
  else match boolText? s with
    | some b => .bool b
    | none =>
      match integerFound s with
      | some u => u
      | none =>
        match (if digitsButNotNumber s then none else floatText? s) with
        | some f => .float f
        | none => .str s

/-- The full name of a standard tag. -/
def standardTag (name : String) : Tag := ("tag:yaml.org,2002:" ++ name).toUTF8.toList

/-- The message for a scalar found where `expected` was wanted. A standard tag whose text does
not fit it gives "invalid value" instead. -/
def scalarMismatch (tag : Option Tag) (value : String) (style : ScalarStyle) (expected : String) :
    String :=
  let found (u : Unexpected) := invalidType .positional u expected
  let wrong (what : String) := invalidValue .positional (.str value) what
  match tag with
  | some t =>
    if t == standardTag "bool" then
      match boolText? value with
      | some b => found (.bool b)
      | none => wrong "a boolean"
    else if t == standardTag "int" then
      match integerFound value with
      | some u => found u
      | none => wrong "an integer"
    else if t == standardTag "float" then
      match floatText? value with
      | some f => found (.float f)
      | none => wrong "a float"
    else if t == standardTag "null" then
      if isNullText value then found .unit else wrong "null"
    else if t.head? == some 33 && style == .plain then found (plainFound value)
    else found (.str value)
  | none => if style == .plain then found (plainFound value) else found (.str value)

end FirmwareRedirect.Yaml
