import FirmwareRedirect.Models.Resolve
import FirmwareRedirect.Text.Unicode.Properties
import FirmwareRedirect.Files
/-!
# Replaying captured access logs

A model table is checked against real traffic by replaying an access log through the resolver.
The front proxy appends the firmware version and the device ID to each request line as its last
two quoted fields:

    1.2.3.4 - - [02/Jan/2024:15:04:05 +0000] "GET /update HTTP/1.1" 404 10 "1.9.2" "SHSW-25#ABC 1"

A field starts at a space followed by a double quote; the last two such pieces are taken, each
without the double quotes at its ends. Blank lines are skipped; every other line counts, and
it is unsupported when it has no such field or when the device does not resolve.
-/

namespace FirmwareRedirect.AccessLog

/-- The pieces of a line between the field openings, a space and a double quote: the first
piece and the pieces after it. Two openings cannot overlap, so cutting from the left gives the
pieces that cutting from the right would. -/
def fieldPieces : List Char → List Char × List (List Char)
  | [] => ([], [])
  | ' ' :: '"' :: rest => let r := fieldPieces rest; ([], r.1 :: r.2)
  | c :: rest => let r := fieldPieces rest; (c :: r.1, r.2)

/-- A list without the elements at its end that satisfy `p`. -/
def dropTrailing (p : Char → Bool) : List Char → List Char
  | [] => []
  | c :: cs => if dropTrailing p cs = [] ∧ p c then [] else c :: dropTrailing p cs

/-- A field without the double quotes at either end. -/
def unquote (field : List Char) : String :=
  String.ofList (dropTrailing (· == '"') (field.dropWhile (· == '"')))

/-- The firmware version and device ID of a log line: its last two fields. A line with no field
opening has neither. -/
def request? (line : String) : Option (String × String) :=
  let (first, rest) := fieldPieces line.toList
  match (first :: rest).reverse with
  | id :: fw :: _ => some (unquote fw, unquote id)
  | _ => none

/-- What replaying one line found. -/
inductive Verdict where
  /-- The line is blank and does not count. -/
  | blank
  /-- The device resolved to a model. -/
  | resolved (model : String)
  /-- The line has no firmware version and device ID. -/
  | malformed
  /-- The device did not resolve. -/
  | unresolved (fw id : String) (e : ResolveError)
  deriving DecidableEq, Repr

/-- Replay one line through a model table. -/
def judge (t : ModelTable) (line : String) : Verdict :=
  if Text.isBlank line then .blank
  else
    match request? line with
    | none => .malformed
    | some (fw, id) =>
      match t.resolve fw id with
      | .ok m => .resolved m
      | .error e => .unresolved fw id e

/-- How many lines counted, and how many of them were unsupported. -/
structure Summary where
  lines : Nat := 0
  unsupported : Nat := 0
  deriving DecidableEq, Repr

/-- Count one more verdict. -/
def Summary.record (s : Summary) : Verdict → Summary
  | .blank => s
  | .resolved _ => { s with lines := s.lines + 1 }
  | .malformed | .unresolved .. => { lines := s.lines + 1, unsupported := s.unsupported + 1 }

/-- The summary of a list of verdicts. -/
def summarize (vs : List Verdict) : Summary := vs.foldl Summary.record {}

/-- Replay lines held in memory. -/
def replayLines (t : ModelTable) (lines : List String) : Summary :=
  summarize (lines.map (judge t))

/-- The outcome of replaying a file: each line read with its verdict, and the fault that
stopped the reading, if any. -/
structure FileReplay where
  verdicts : List (String × Verdict)
  fault : Option ReadFault

/-- Replay the lines of a file. -/
def replayFile (t : ModelTable) (files : FileView) (path : String) : FileReplay :=
  let (lines, fault) := files.lines path
  ⟨lines.map fun l => (l, judge t l), fault⟩

/-- The summary of a file replay, or the fault that ended it. -/
def FileReplay.summary (r : FileReplay) : Except ReadFault Summary :=
  match r.fault with
  | some f => .error f
  | none => .ok (summarize (r.verdicts.map (·.2)))

/-! ## Reading back what the proxy writes

A field opening appended to any text starts a new field, and a value with no double quote that
does not end in a space, closed by a quote, is one field. So the line the proxy writes for a
request reads back as its version and ID. -/

/-- A character that does not open a field with what follows is kept in the first piece. -/
theorem fieldPieces_cons {c : Char} {rest : List Char} (h : ¬ (c = ' ' ∧ rest.head? = some '"')) :
    fieldPieces (c :: rest) = (c :: (fieldPieces rest).1, (fieldPieces rest).2) :=
  fieldPieces.eq_3 c rest fun r hc hr => h ⟨hc, by simp [hr]⟩

/-- An opening appended after any text starts a new field: the pieces of the text are kept and
the pieces of what follows come after them. -/
theorem fieldPieces_append_opening (l r : List Char) :
    fieldPieces (l ++ ' ' :: '"' :: r) =
      ((fieldPieces l).1, (fieldPieces l).2 ++ (fieldPieces r).1 :: (fieldPieces r).2) := by
  fun_induction fieldPieces l with
  | case1 => simp [fieldPieces]
  | case2 rest _ ih =>
    rw [List.cons_append, List.cons_append, fieldPieces.eq_2, ih]
    rfl
  | case3 c rest hnot _ ih =>
    -- the opening that follows `rest` cannot pair with `c`: `c` is not a space before a quote
    have hc : ¬ (c = ' ' ∧ (rest ++ ' ' :: '"' :: r).head? = some '"') := by
      rintro ⟨rfl, hq⟩
      cases rest with
      | nil => simp at hq
      | cons d rest => simp at hq; exact hnot rest rfl (by rw [hq])
    rw [List.cons_append, fieldPieces_cons hc, ih]

/-- A value holding no double quote and not ending in a space, closed by a quote, is one field:
no opening lies inside it. -/
theorem fieldPieces_closed {w : List Char} (hq : '"' ∉ w) (hs : w.getLast? ≠ some ' ') :
    fieldPieces (w ++ ['"']) = (w ++ ['"'], []) := by
  induction w with
  | nil => rfl
  | cons c w ih =>
    have hw : '"' ∉ w := fun h => hq (List.mem_cons_of_mem c h)
    -- `c` opens a field only as the last character, a space, before the closing quote
    have hc : ¬ (c = ' ' ∧ (w ++ ['"']).head? = some '"') := by
      rintro ⟨rfl, hhead⟩
      cases w with
      | nil => simp at hs
      | cons d w => simp at hhead; exact hw (hhead ▸ List.mem_cons_self)
    have hs' : w.getLast? ≠ some ' ' := by
      cases w with
      | nil => simp
      | cons d w => simpa [List.getLast?_cons_cons] using hs
    rw [List.cons_append, fieldPieces_cons hc, ih hw hs']

/-- Dropping trailing quotes from a value with no quote, closed by a quote, gives the value. -/
theorem dropTrailing_closed {w : List Char} (hq : '"' ∉ w) :
    dropTrailing (· == '"') (w ++ ['"']) = w := by
  induction w with
  | nil => rfl
  | cons c w ih =>
    have hc : (c == '"') = false := by
      have : c ≠ '"' := fun h => hq (h ▸ List.mem_cons_self)
      simpa using this
    rw [List.cons_append, dropTrailing, ih (fun h => hq (List.mem_cons_of_mem c h))]
    simp [hc]

/-- A value with no quote, closed by a quote, unquotes to itself. -/
theorem unquote_closed {w : List Char} (hq : '"' ∉ w) : unquote (w ++ ['"']) = String.ofList w := by
  unfold unquote
  cases w with
  | nil => rfl
  | cons c w =>
    have hc : (c == '"') = false := by
      have : c ≠ '"' := fun h => hq (h ▸ List.mem_cons_self)
      simpa using this
    rw [List.cons_append, List.dropWhile_cons_of_neg (by simp [hc]), ← List.cons_append,
      dropTrailing_closed hq]

/-- The line the front proxy writes for a request: any text, then the firmware version and the
device ID as the last two quoted fields. -/
def proxyLine (pre fw id : String) : String := pre ++ " \"" ++ fw ++ "\" \"" ++ id ++ "\""

theorem toList_proxyLine (pre fw id : String) :
    (proxyLine pre fw id).toList =
      pre.toList ++ ' ' :: '"' :: ((fw.toList ++ ['"']) ++ ' ' :: '"' :: (id.toList ++ ['"'])) := by
  simp [proxyLine, String.toList_append]

/-- A line the proxy writes reads back as the version and the ID it holds, when neither holds a
double quote or ends in a space. -/
theorem request?_proxyLine (pre : String) {fw id : String} (hfq : '"' ∉ fw.toList)
    (hfs : fw.toList.getLast? ≠ some ' ') (hiq : '"' ∉ id.toList)
    (his : id.toList.getLast? ≠ some ' ') :
    request? (proxyLine pre fw id) = some (fw, id) := by
  -- the opening before the version splits off the prefix, the one before the ID splits the two
  unfold request?
  rw [toList_proxyLine, fieldPieces_append_opening, fieldPieces_append_opening,
    fieldPieces_closed hfq hfs, fieldPieces_closed hiq his]
  simp [unquote_closed hfq, unquote_closed hiq]

/-- A line the proxy writes is never blank: it holds a double quote. -/
theorem isBlank_proxyLine (pre fw id : String) : Text.isBlank (proxyLine pre fw id) = false := by
  have hq : Text.isWhiteSpace '"' = false := by decide
  simp [Text.isBlank, toList_proxyLine, hq]

/-- A line is judged blank exactly when it is blank. -/
theorem judge_eq_blank_iff (t : ModelTable) (line : String) :
    judge t line = .blank ↔ Text.isBlank line = true := by
  unfold judge
  by_cases h : Text.isBlank line = true
  · simp [h]
  · -- a line that is not blank is malformed, resolved or unresolved
    simp only [h, Bool.false_eq_true, if_false, iff_false]
    split
    · simp
    · split <;> simp

/-- A line the proxy writes is judged by the resolution of the version and the ID it holds. -/
theorem judge_proxyLine (t : ModelTable) (pre : String) {fw id : String}
    (hfq : '"' ∉ fw.toList) (hfs : fw.toList.getLast? ≠ some ' ') (hiq : '"' ∉ id.toList)
    (his : id.toList.getLast? ≠ some ' ') :
    judge t (proxyLine pre fw id) =
      match t.resolve fw id with
      | .ok model => .resolved model
      | .error e => .unresolved fw id e := by
  simp only [judge, isBlank_proxyLine, request?_proxyLine pre hfq hfs hiq his]
  rfl


/-! ## Counting -/

/-- Whether a verdict makes its line unsupported: the line names no request, or its device does
not resolve. -/
def Verdict.unsupported : Verdict → Bool
  | .malformed | .unresolved .. => true
  | _ => false

/-- Counting verdicts onto a summary adds the lines that are not blank and the unsupported
ones. -/
theorem foldl_record (s : Summary) (vs : List Verdict) :
    vs.foldl Summary.record s =
      ⟨s.lines + vs.countP (· != .blank), s.unsupported + vs.countP Verdict.unsupported⟩ := by
  induction vs generalizing s with
  | nil => rfl
  | cons v vs ih =>
    rw [List.foldl_cons, ih]
    cases v <;> simp [Summary.record, Verdict.unsupported, List.countP_cons] <;> omega

/-- A summary counts the lines that are not blank and the unsupported ones. -/
theorem summarize_eq (vs : List Verdict) :
    summarize vs = ⟨vs.countP (· != .blank), vs.countP Verdict.unsupported⟩ := by
  simp [summarize, foldl_record]

end FirmwareRedirect.AccessLog
