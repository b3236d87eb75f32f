/-!
# Binary64 numbers

A binary64 number is read from its 64 bits: a sign, an 11-bit biased exponent and a 52-bit
fraction. A finite number is `m × 2^e` for a whole `m`, with `m < 2^53`; the largest exponent
field holds the infinities and NaN.

The other direction rounds the exact value `d × 10^k` of a decimal to the nearest binary64
number, a tie going to the even mantissa, as every correct decimal reader does. All arithmetic
is on whole numbers, so the result is exact and fixed by the value alone.
-/

namespace FirmwareRedirect.Number

/-- What the bits of a binary64 number stand for. -/
inductive Binary64 where
  /-- `(-1)^neg × m × 2^e`. -/
  | finite (neg : Bool) (m : Nat) (e : Int)
  /-- Positive or negative infinity. -/
  | infinite (neg : Bool)
  /-- Not a number, with its sign bit. -/
  | nan (neg : Bool)
  deriving DecidableEq, Repr

/-- Read the bits of a binary64 number. -/
def Binary64.ofBits (bits : UInt64) : Binary64 :=
  let n := bits.toNat
  let neg : Bool := n / Nat.pow 2 63 = 1
  let field : Nat := n / Nat.pow 2 52 % Nat.pow 2 11
  let frac : Nat := n % Nat.pow 2 52
  if field = Nat.pow 2 11 - 1 then
    if frac = 0 then .infinite neg else .nan neg
  else if field = 0 then .finite neg frac (-1074)
  else .finite neg (frac + Nat.pow 2 52) ((field : Int) - 1075)

/-- The bits of a number that is not negative zero and is given by its sign, exponent field and
fraction. -/
def packBits (neg : Bool) (field frac : Nat) : UInt64 :=
  UInt64.ofNat ((if neg then Nat.pow 2 63 else 0) + field * Nat.pow 2 52 + frac)

/-- Compare `a × 2^b` with `c × 10^d` exactly. -/
def cmpBinDec (a : Nat) (b : Int) (c : Nat) (d : Int) : Ordering :=
  compare (a * Nat.pow 2 b.toNat * Nat.pow 10 (-d).toNat) (c * Nat.pow 10 d.toNat * Nat.pow 2 (-b).toNat)

/-- `n / q` rounded to the nearest whole number, a tie going to the even one. -/
def roundHalfEven (n q : Nat) : Nat :=
  let f := n / q
  let r := n % q
  if 2 * r > q then f + 1
  else if 2 * r = q then (if f % 2 = 0 then f else f + 1)
  else f

/-- The bits of the binary64 number nearest to `n / q × 2^e2`, where the quotient is taken in
binary64's mantissa range: the caller has picked `e2` so that the rounded mantissa is below
`2^53`, or `e2` is the least exponent `-1074`. -/
def packRounded (neg : Bool) (n q : Nat) (e2 : Int) : UInt64 :=
  let m := roundHalfEven n q
  -- a carry out of the mantissa moves up one binade
  let (m, e2) := if m = Nat.pow 2 53 then (Nat.pow 2 52, e2 + 1) else (m, e2)
  if e2 > 971 then packBits neg (Nat.pow 2 11 - 1) 0
  else if m < Nat.pow 2 52 then packBits neg 0 m
  else packBits neg (e2 + 1075).toNat (m - Nat.pow 2 52)

/-- The exponent `e2` at which `num / den` scaled by `2^-e2` has its integer part in
`[2^52, 2^53)`, searched from an estimate with a bounded number of corrections. -/
def mantissaExponent (num den : Nat) : Int :=
  let est : Int := (Nat.log2 num : Int) - (Nat.log2 den : Int) - 52
  let fits (e2 : Int) : Ordering :=
    let m := num * Nat.pow 2 (-e2).toNat / (den * Nat.pow 2 e2.toNat)
    if m < Nat.pow 2 52 then .lt else if m < Nat.pow 2 53 then .eq else .gt
  let rec go : Nat → Int → Int
    | 0, e2 => e2
    | fuel + 1, e2 =>
      match fits e2 with
      | .lt => go fuel (e2 - 1)
      | .gt => go fuel (e2 + 1)
      | .eq => e2
  go 4 est

/-- The bits of the binary64 number nearest to `(-1)^neg × d × 10^k`, ties to even. Values too
large become infinity and values too small become zero, both with the given sign. -/
def roundDecimal (neg : Bool) (d : Nat) (k : Int) : UInt64 :=
  if d = 0 then packBits neg 0 0
  -- far outside the range of binary64: no need to build huge numbers
  else if k + ((Nat.toDigits 10 d).length : Int) > 400 then packBits neg (Nat.pow 2 11 - 1) 0
  else if k + ((Nat.toDigits 10 d).length : Int) < -400 then packBits neg 0 0
  else
    let num := d * Nat.pow 10 k.toNat
    let den := Nat.pow 10 (-k).toNat
    let e2 := max (mantissaExponent num den) (-1074)
    packRounded neg (num * Nat.pow 2 (-e2).toNat) (den * Nat.pow 2 e2.toNat) e2

/-- The binary64 number nearest to a decimal, as a `Float`. -/
def floatOfDecimal (neg : Bool) (d : Nat) (k : Int) : Float :=
  Float.ofBits (roundDecimal neg d k)

end FirmwareRedirect.Number
