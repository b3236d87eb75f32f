import FirmwareRedirect.Number.Binary64
/-!
# Shortest decimal digits

The shortest decimal form of a positive finite binary64 number `v = m × 2^e` is the decimal with
the fewest significant digits that reads back as `v`, and of those the one nearest to `v`. A
decimal reads back as `v` when it lies strictly between the midpoints to the two neighbours of
`v`, or on one of them when `m` is even, since a tie rounds to the even mantissa. The lower
neighbour is half as far when `v` is the first number of its binade.

For `n = 1, 2, …, 17` digits, the only candidates on the grid of `n`-digit decimals are the two
grid points around `v`; the first `n` for which one of them reads back gives the answer.
-/

namespace FirmwareRedirect.Number

/-- The greatest `p` with `10^p ≤ m × 2^e`, for `m > 0`. -/
def decimalMagnitude (m : Nat) (e : Int) : Int :=
  let est : Int := ((Nat.log2 m : Int) + e) * 30103 / 100000
  let rec go : Nat → Int → Int
    | 0, p => p
    | fuel + 1, p =>
      if cmpBinDec m e 1 p == .lt then go fuel (p - 1)
      else if cmpBinDec m e 1 (p + 1) != .lt then go fuel (p + 1)
      else p
  go 8 est

/-- Move trailing zeros of `c` into the exponent: `c × 10^k` stays the same value. The grid
point above `v` can be `10^n`, one digit longer than the grid it was found on. -/
def stripZeros : Nat → Nat × Int → Nat × Int
  | 0, ck => ck
  | fuel + 1, (c, k) => if c ≠ 0 ∧ c % 10 = 0 then stripZeros fuel (c / 10, k + 1) else (c, k)

/-- The shortest digits `c` and exponent `k` with `c × 10^k` reading back as `m × 2^e`, where
`m > 0` and `firstOfBinade` says that the next number down is half as close. -/
def shortestDigits (m : Nat) (e : Int) (firstOfBinade : Bool) : Nat × Int :=
  let even := m % 2 = 0
  -- the midpoints to the neighbours, as `a × 2^b`
  let (loA, loB) : Nat × Int := if firstOfBinade then (4 * m - 1, e - 2) else (2 * m - 1, e - 1)
  let (hiA, hiB) : Nat × Int := (2 * m + 1, e - 1)
  let readsBack (c : Nat) (k : Int) : Bool :=
    let aboveLo := match cmpBinDec loA loB c k with
      | .lt => true
      | .eq => even
      | .gt => false
    let belowHi := match cmpBinDec hiA hiB c k with
      | .gt => true
      | .eq => even
      | .lt => false
    aboveLo && belowHi
  let p := decimalMagnitude m e
  let rec search : Nat → Nat → Nat × Int
    | 0, _ => (m, e)
    | fuel + 1, n =>
      let k : Int := p - (n : Int) + 1
      -- the grid point at or below `v`
      let c := m * Nat.pow 2 e.toNat * Nat.pow 10 (-k).toNat / (Nat.pow 10 k.toNat * Nat.pow 2 (-e).toNat)
      let okLo := readsBack c k
      let okHi := readsBack (c + 1) k
      if okLo && okHi then
        -- the nearer one; compare 2v with (2c + 1) × 10^k
        match cmpBinDec (2 * m) e (2 * c + 1) k with
        | .lt => (c, k)
        | .gt => (c + 1, k)
        | .eq => if c % 2 = 0 then (c, k) else (c + 1, k)
      else if okLo then (c, k)
      else if okHi then (c + 1, k)
      else search fuel (n + 1)
  stripZeros 2 (search 17 1)

/-- The decimal digits of a whole number, most significant first. -/
def decimalDigits (n : Nat) : List Char := Nat.toDigits 10 n

end FirmwareRedirect.Number
