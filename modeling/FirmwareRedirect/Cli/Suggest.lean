/-!
# Suggestions for mistyped names

A mistyped flag or subcommand is compared with the known names by Jaro similarity, and names
more than 0.7 similar are suggested, the most similar last.

The Jaro similarity of `a` and `b` counts the characters of `a` that match an equal, not yet
matched character of `b` at most `max(|a|, |b|) / 2 - 1` places away (`m` of them), and the
matched characters that are out of order (`t` transpositions, half the mismatches when the two
matched sequences are read side by side). It is `(m/|a| + m/|b| + (m - t)/m) / 3`, and 0 when
nothing matches. Here it is kept as an exact fraction.
-/

namespace FirmwareRedirect.Cli

/-- A similarity as a fraction: numerator and denominator. -/
structure Similarity where
  num : Nat
  den : Nat
  deriving DecidableEq, Repr

/-- Whether a similarity is above 0.7. -/
def Similarity.close (s : Similarity) : Bool := 10 * s.num > 7 * s.den

/-- Whether one similarity is below another. -/
def Similarity.lt (s t : Similarity) : Bool := s.num * t.den < t.num * s.den

/-- Match the characters of `a` against `b` from left to right: for each one, the first equal
and unmatched character of `b` within the window. Gives the matched flags of `a` and `b`. -/
def matchFlags (a b : List Char) (window : Nat) : List Bool × List Bool :=
  let step := fun (acc : List Bool × List Bool × Nat) (c : Char) =>
    let (aFlags, bFlags, i) := acc
    let lo := i - window
    let hi := min b.length (i + window + 1)
    let pick := (List.range hi).find? fun j =>
      lo ≤ j && b[j]? = some c && bFlags[j]? = some false
    match pick with
    | some j => (aFlags ++ [true], bFlags.set j true, i + 1)
    | none => (aFlags ++ [false], bFlags, i + 1)
  let (aFlags, bFlags, _) := a.foldl step ([], List.replicate b.length false, 0)
  (aFlags, bFlags)

/-- The Jaro similarity of two names. -/
def jaro (a b : List Char) : Similarity :=
  if a.isEmpty && b.isEmpty then ⟨1, 1⟩
  else if a.isEmpty || b.isEmpty then ⟨0, 1⟩
  else
    let window := max a.length b.length / 2 - 1
    let (aFlags, bFlags) := matchFlags a b window
    let aMatched := (a.zip aFlags).filterMap fun (c, f) => if f then some c else none
    let bMatched := (b.zip bFlags).filterMap fun (c, f) => if f then some c else none
    let m := aMatched.length
    let t := ((aMatched.zip bMatched).filter fun (x, y) => x ≠ y).length / 2
    if m = 0 then ⟨0, 1⟩
    else
      -- (m/la + m/lb + (m - t)/m) / 3 over the common denominator 3 * la * lb * m
      let la := a.length
      let lb := b.length
      ⟨m * lb * m + m * la * m + (m - t) * la * lb, 3 * la * lb * m⟩

/-- The names more than 0.7 similar to `typed`, least similar first; among equals, in the
order given. -/
def similarNames (typed : String) (names : List String) : List String :=
  let scored := names.filterMap fun n =>
    let s := jaro typed.toList n.toList
    if s.close then some (s, n) else none
  (scored.mergeSort fun x y => !(y.1.lt x.1)).map (·.2)

end FirmwareRedirect.Cli
