import FirmwareRedirect.Number.FloatText
import FirmwareRedirect.Text.Quoted
/-!
# What a decoder found instead of what it wanted

Reading a typed value out of a document tree fails with "invalid type: X, expected Y" or
"invalid value: X, expected Y". `X` describes what was found: a scalar with its value, or the
kind of a compound value. The spelling of a float depends on the document format: TOML and
YAML write it positionally with a decimal point, JSON in its shortest exponent-aware form, and
JSON calls the unit value "null".
-/

namespace FirmwareRedirect.Decode

/-- A value found where another was wanted. -/
inductive Unexpected where
  | bool (b : Bool)
  | unsigned (n : Nat)
  | signed (n : Int)
  | float (f : Float)
  | char (c : Char)
  | str (s : String)
  | unit
  | seq
  | map
  | other (what : String)

/-- How a float is spelled in a message. -/
inductive FloatStyle where
  /-- Positional, always with a decimal point: "1.0", "100000000000000000000.0". -/
  | positional
  /-- Shortest, switching to an exponent for large and small magnitudes: "1e+20". -/
  | compact

/-- The description of an unexpected value. -/
def Unexpected.text (style : FloatStyle) : Unexpected → String
  | .bool b => "boolean " ++ "\x60" ++ toString b ++ "\x60"
  | .unsigned n => "integer \x60" ++ toString n ++ "\x60"
  | .signed n => "integer \x60" ++ toString n ++ "\x60"
  | .float f =>
    let t := match style with
      | .positional => Number.Float.positionalText f
      | .compact => Number.Float.compactText f
    "floating point \x60" ++ t ++ "\x60"
  | .char c => "character \x60" ++ c.toString ++ "\x60"
  | .str s => "string " ++ Text.quote s
  | .unit => match style with
    | .positional => "unit value"
    | .compact => "null"
  | .seq => "sequence"
  | .map => "map"
  | .other w => w

/-- "invalid type: X, expected Y". -/
def invalidType (style : FloatStyle) (u : Unexpected) (expected : String) : String :=
  "invalid type: " ++ u.text style ++ ", expected " ++ expected

/-- "invalid value: X, expected Y". -/
def invalidValue (style : FloatStyle) (u : Unexpected) (expected : String) : String :=
  "invalid value: " ++ u.text style ++ ", expected " ++ expected

end FirmwareRedirect.Decode
