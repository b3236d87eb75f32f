import FirmwareRedirect.Number.Binary64
/-!
# Decimal number text

The usual text of a binary64 number: an optional sign, then digits with an optional point
(`12`, `1.5`, `1.`, `.5`) and an optional exponent (`e7`, `E-3`), or one of the words `inf`,
`infinity` and `nan` in any case. Reading it gives the nearest binary64 number.
-/

namespace FirmwareRedirect.Number

/-- What a number text stands for. -/
inductive DecimalValue where
  /-- `(-1)^neg × d × 10^k`. -/
  | finite (neg : Bool) (d : Nat) (k : Int)
  | infinity (neg : Bool)
  | nan (neg : Bool)

/-- Digits at the front of a list, with their value and how many there were. -/
def takeDigits (cs : List Char) : Nat × Nat × List Char :=
  let ds := cs.takeWhile Char.isDigit
  (ds.foldl (fun acc c => acc * 10 + (c.toNat - 48)) 0, ds.length, cs.drop ds.length)

/-- Read the part after the sign. -/
def readUnsigned (neg : Bool) (cs : List Char) : Option DecimalValue :=
  let lower := String.ofList (cs.map Char.toLower)
  if lower = "inf" || lower = "infinity" then some (.infinity neg)
  else if lower = "nan" then some (.nan neg)
  else
    let (whole, nWhole, rest) := takeDigits cs
    let (frac, nFrac, rest) :=
      match rest with
      | '.' :: r => takeDigits r
      | _ => (0, 0, rest)
    if nWhole + nFrac = 0 then none
    else
      let mantissa := whole * Nat.pow 10 nFrac + frac
      match rest with
      | [] => some (.finite neg mantissa (-(nFrac : Int)))
      | e :: r =>
        if e = 'e' || e = 'E' then
          let (expNeg, r) := match r with
            | '+' :: r' => (false, r')
            | '-' :: r' => (true, r')
            | _ => (false, r)
          let (x, nx, r) := takeDigits r
          if nx = 0 || !r.isEmpty then none
          else some (.finite neg mantissa ((if expNeg then -(x : Int) else x) - nFrac))
        else none

/-- Read a number text. -/
def readDecimal? (s : String) : Option DecimalValue :=
  match s.toList with
  | '+' :: r => readUnsigned false r
  | '-' :: r => readUnsigned true r
  | r => readUnsigned false r

/-- The binary64 number a number text stands for, rounded to nearest. -/
def DecimalValue.toFloat : DecimalValue → Float
  | .finite neg d k => floatOfDecimal neg d k
  | .infinity neg => Float.ofBits (packBits neg (Nat.pow 2 11 - 1) 0)
  | .nan neg => Float.ofBits (packBits neg (Nat.pow 2 11 - 1) (Nat.pow 2 51))

end FirmwareRedirect.Number
