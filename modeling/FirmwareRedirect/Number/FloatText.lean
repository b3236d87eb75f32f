import FirmwareRedirect.Number.Shortest
/-!
# Texts of binary64 numbers

Two spellings of a binary64 number appear in messages. Both use the shortest digits that read
back (`shortestDigits`); they differ in where the digits go.

* The positional spelling never uses an exponent: `1.5`, `1000.0`, `0.0000001`. It writes
  `.0` after a whole number, and `inf`, `-inf` and `NaN` for the values that are not finite.
* The compact spelling writes numbers with up to sixteen integer digits, or down to four zeros
  after the point, positionally, and uses an exponent `e` with its sign otherwise: `1e+300`, `1.5e-7`.
-/

namespace FirmwareRedirect.Number

/-- Where a number's digits sit: `digits × 10^k`, as a list of digits and `k`. Zero has the
single digit `0` and `k = 0`. -/
def decimalForm (m : Nat) (e : Int) (firstOfBinade : Bool) : List Char × Int :=
  if m = 0 then (['0'], 0)
  else
    let (c, k) := shortestDigits m e firstOfBinade
    (decimalDigits c, k)

/-- The sign, digits and exponent of a finite binary64 number, or `none` for an infinity or NaN. -/
def Binary64.decimal? : Binary64 → Option (Bool × List Char × Int)
  | .finite neg m e =>
    -- the first number of a binade other than the lowest normal one has a closer lower neighbour
    let first := m = Nat.pow 2 52 && e > -1074
    let (ds, k) := decimalForm m e first
    some (neg, ds, k)
  | _ => none

/-- `n` copies of `'0'`. -/
def zeros (n : Nat) : List Char := List.replicate n '0'

/-- Digits `ds` times `10^k`, written without an exponent; a whole number gets `.0`. -/
def positional (ds : List Char) (k : Int) : List Char :=
  let n := ds.length
  if k ≥ 0 then ds ++ zeros k.toNat ++ ['.', '0']
  else
    let point : Int := n + k
    if point > 0 then ds.take point.toNat ++ '.' :: ds.drop point.toNat
    else '0' :: '.' :: zeros (-point).toNat ++ ds

/-- The positional spelling of a binary64 number. -/
def Binary64.positionalText : Binary64 → String
  | .infinite neg => if neg then "-inf" else "inf"
  | .nan _ => "NaN"
  | b@(.finite _ _ _) =>
    match b.decimal? with
    | some (neg, ds, k) => String.ofList ((if neg then ['-'] else []) ++ positional ds k)
    | none => ""

/-- The exponent part of the compact spelling, always signed. -/
def exponentText (x : Int) : List Char :=
  'e' :: (if x < 0 then '-' :: Nat.toDigits 10 (-x).toNat else '+' :: Nat.toDigits 10 x.toNat)

/-- Digits `ds` times `10^k` in the compact spelling. -/
def compact (ds : List Char) (k : Int) : List Char :=
  let n : Int := ds.length
  let point := n + k
  if k ≥ 0 && point ≤ 16 then ds ++ zeros k.toNat ++ ['.', '0']
  else if 0 < point && point ≤ 16 then ds.take point.toNat ++ '.' :: ds.drop point.toNat
  else if -5 < point && point ≤ 0 then '0' :: '.' :: zeros (-point).toNat ++ ds
  else if n = 1 then ds ++ exponentText (point - 1)
  else ds.take 1 ++ '.' :: ds.drop 1 ++ exponentText (point - 1)

/-- The compact spelling of a binary64 number. -/
def Binary64.compactText : Binary64 → String
  | .infinite neg => if neg then "-inf" else "inf"
  | .nan _ => "NaN"
  | b@(.finite _ _ _) =>
    match b.decimal? with
    | some (neg, ds, k) => String.ofList ((if neg then ['-'] else []) ++ compact ds k)
    | none => ""

/-- The positional spelling of a `Float`. -/
def Float.positionalText (f : Float) : String := (Binary64.ofBits f.toBits).positionalText

/-- The compact spelling of a `Float`. -/
def Float.compactText (f : Float) : String := (Binary64.ofBits f.toBits).compactText

end FirmwareRedirect.Number
