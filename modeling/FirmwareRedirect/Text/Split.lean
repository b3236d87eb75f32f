/-!
# Splitting text at a separator

`splitOn sep cs` cuts a list (of characters, or of bytes) at every occurrence of `sep`. There is always one
more piece than there are separators, and empty pieces are kept: `"a  b"` cut at spaces gives
`a`, the empty piece and `b`. The first piece is the text before the first separator.
-/

namespace FirmwareRedirect.Text

variable {α : Type} [DecidableEq α]

/-- The first piece of `cs` and the pieces after it, when cut at every `sep`. -/
def splitPieces (sep : α) : List α → List α × List (List α)
  | [] => ([], [])
  | c :: cs =>
    let r := splitPieces sep cs
    if c = sep then ([], r.1 :: r.2) else (c :: r.1, r.2)

/-- The pieces of `cs` between the occurrences of `sep`. -/
def splitOn (sep : α) (cs : List α) : List (List α) :=
  (splitPieces sep cs).1 :: (splitPieces sep cs).2

/-- The first piece is the text before the first separator. -/
theorem splitPieces_fst (sep : α) (cs : List α) :
    (splitPieces sep cs).1 = cs.takeWhile (· ≠ sep) := by
  induction cs with
  | nil => rfl
  | cons c cs ih =>
    by_cases h : c = sep
    · simp [splitPieces, h]
    · simp [splitPieces, h, ih]

/-- There is one more piece than there are separators. -/
theorem length_splitOn (sep : α) (cs : List α) :
    (splitOn sep cs).length = cs.count sep + 1 := by
  induction cs with
  | nil => rfl
  | cons c cs ih =>
    by_cases h : c = sep
    · subst h; simp_all [splitOn, splitPieces]
    · simp_all [splitOn, splitPieces]

/-- The pieces after the first are as many as the separators. -/
theorem length_splitPieces_snd (sep : α) (cs : List α) :
    (splitPieces sep cs).2.length = cs.count sep := by
  simpa [splitOn] using length_splitOn sep cs

end FirmwareRedirect.Text
