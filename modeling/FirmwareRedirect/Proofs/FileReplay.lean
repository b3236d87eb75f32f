import FirmwareRedirect.AccessLog
import FirmwareRedirect.Text.Lossy
/-!
# Replaying a file counts as replaying its lines

An access log is read line by line from its bytes: they are cut at each line feed, the empty
piece after a final feed is no line, and one carriage return before each feed goes with it. A
piece that is not UTF-8 ends the reading with a fault, wherever it stands.

The line feed and the carriage return are ASCII, and every byte of any other character is at
least `0x80`. So cutting the bytes of a text at a feed cuts its characters at the feed, and the
pieces of bytes are all UTF-8 exactly when the whole file is. Replaying a file therefore fails
exactly when its bytes are not UTF-8, and otherwise counts the lines of its text as replaying
them in memory does: carriage returns before feeds, a missing final feed and blank lines
included.

Main statement: `replayFile_summary`.
-/

namespace FirmwareRedirect

/-! ## ASCII bytes in UTF-8 -/

/-- An ASCII character is its own byte. -/
theorem utf8EncodeChar_of_ascii {d : Char} (hd : d.toNat < 128) :
    String.utf8EncodeChar d = [d.toUInt8] := by
  rw [String.utf8EncodeChar_eq_singleton (Char.utf8Size_eq_one_iff.2 (by
    rw [UInt32.le_iff_toNat_le]; exact Nat.le_of_lt_succ hd))]
  rfl

theorem toNat_toUInt8_of_ascii {d : Char} (hd : d.toNat < 128) : d.toUInt8.toNat = d.toNat := by
  show d.val.toUInt8.toNat = d.val.toNat
  rw [UInt32.toNat_toUInt8]
  exact Nat.mod_eq_of_lt (by change d.val.toNat < 128 at hd; omega)

/-- Every byte of a character beyond ASCII is at least `0x80`. -/
theorem le_toNat_of_mem_utf8EncodeChar {c : Char} {b : UInt8} (hc : 128 ≤ c.toNat)
    (hb : b ∈ String.utf8EncodeChar c) : 128 ≤ b.toNat := by
  have hval : c.val.toNat = c.toNat := rfl
  have hlt : c.toNat < 0x110000 := by
    have := c.valid
    simp [UInt32.isValidChar, Nat.isValidChar] at this
    omega
  unfold String.utf8EncodeChar at hb
  simp only [hval] at hb
  -- one case per length of the encoding: lead and continuation bytes all have the top bit set
  split at hb
  · omega
  split at hb
  · simp at hb; rcases hb with rfl | rfl <;> simp <;> omega
  split at hb
  · simp at hb; rcases hb with rfl | rfl | rfl <;> simp <;> omega
  · simp at hb; rcases hb with rfl | rfl | rfl | rfl <;> simp <;> omega

/-- The byte of an ASCII character is among the bytes of a character only when the two are the
same. -/
theorem ascii_mem_utf8EncodeChar {c d : Char} (hd : d.toNat < 128) :
    d.toUInt8 ∈ String.utf8EncodeChar c ↔ c = d := by
  constructor
  · intro h
    have h1 := toNat_toUInt8_of_ascii hd
    by_cases hc : c.toNat < 128
    · rw [utf8EncodeChar_of_ascii hc, List.mem_singleton] at h
      have h2 := toNat_toUInt8_of_ascii hc
      rw [← Char.toNat_inj]
      rw [h] at h1
      omega
    · have := le_toNat_of_mem_utf8EncodeChar (by omega) h
      omega
  · rintro rfl
    simp [utf8EncodeChar_of_ascii hd]

/-- The bytes of a list of characters. -/
def utf8Bytes (cs : List Char) : List UInt8 := cs.flatMap String.utf8EncodeChar

@[simp] theorem utf8Bytes_nil : utf8Bytes [] = [] := rfl

theorem utf8Bytes_cons (c : Char) (cs : List Char) :
    utf8Bytes (c :: cs) = String.utf8EncodeChar c ++ utf8Bytes cs := List.flatMap_cons

@[simp] theorem utf8Bytes_append (cs ds : List Char) :
    utf8Bytes (cs ++ ds) = utf8Bytes cs ++ utf8Bytes ds := List.flatMap_append

@[simp] theorem utf8Bytes_eq_nil {cs : List Char} : utf8Bytes cs = [] ↔ cs = [] := by
  cases cs with
  | nil => simp
  | cons c cs => simp [utf8Bytes_cons]

/-- Bytes that are UTF-8 decode to the characters they encode. -/
theorem fromUTF8?_utf8Bytes (cs : List Char) :
    String.fromUTF8? ⟨(utf8Bytes cs).toArray⟩ = some (String.ofList cs) := by
  have hbytes : (⟨(utf8Bytes cs).toArray⟩ : ByteArray) = cs.utf8Encode :=
    ByteArray.ext (by simp [List.utf8Encode, utf8Bytes, List.data_toByteArray])
  rw [hbytes]
  simp [String.fromUTF8?, ByteArray.isValidUTF8_utf8Encode, ← String.toByteArray_inj,
    String.fromUTF8]

/-- Whether some bytes are the UTF-8 encoding of some characters. -/
def IsUtf8 (bytes : List UInt8) : Prop := ∃ cs, bytes = utf8Bytes cs

theorem IsUtf8.append {xs ys : List UInt8} (hx : IsUtf8 xs) (hy : IsUtf8 ys) :
    IsUtf8 (xs ++ ys) := by
  obtain ⟨cs, rfl⟩ := hx
  obtain ⟨ds, rfl⟩ := hy
  exact ⟨cs ++ ds, (utf8Bytes_append cs ds).symm⟩

/-- The bytes of an array are UTF-8 exactly when the array is. -/
theorem isValidUTF8_iff_isUtf8 (bytes : List UInt8) :
    ByteArray.IsValidUTF8 ⟨bytes.toArray⟩ ↔ IsUtf8 bytes := by
  constructor
  · rintro ⟨cs, hcs⟩
    have hdata := congrArg ByteArray.data hcs
    simp only [List.utf8Encode, List.data_toByteArray] at hdata
    exact ⟨cs, List.toArray_inj hdata⟩
  · rintro ⟨cs, rfl⟩
    exact ⟨cs, ByteArray.ext (by simp [List.utf8Encode, utf8Bytes, List.data_toByteArray])⟩

/-- Bytes decode exactly when they are UTF-8. -/
theorem fromUTF8?_isSome_iff (bytes : List UInt8) :
    (String.fromUTF8? ⟨bytes.toArray⟩).isSome ↔ IsUtf8 bytes := by
  rw [← isValidUTF8_iff_isUtf8]
  unfold String.fromUTF8?
  split <;> simp_all

/-! ## Cutting at a line feed -/

namespace Text

variable {α : Type} [DecidableEq α]

/-- A prefix without the separator stays at the front of the first piece. -/
theorem splitPieces_append_of_not_mem {sep : α} {xs : List α} (h : sep ∉ xs) (ys : List α) :
    splitPieces sep (xs ++ ys) = (xs ++ (splitPieces sep ys).1, (splitPieces sep ys).2) := by
  induction xs with
  | nil => rfl
  | cons x xs ih =>
    have hx : x ≠ sep := fun hx => h (hx ▸ List.mem_cons_self)
    rw [List.cons_append, splitPieces, ih (fun hm => h (List.mem_cons_of_mem x hm))]
    simp [hx]

end Text

/-- Cutting the bytes of characters at an ASCII byte cuts the characters at that character. -/
theorem splitPieces_utf8Bytes {d : Char} (hd : d.toNat < 128) (cs : List Char) :
    Text.splitPieces d.toUInt8 (utf8Bytes cs) =
      (utf8Bytes (Text.splitPieces d cs).1, (Text.splitPieces d cs).2.map utf8Bytes) := by
  induction cs with
  | nil => rfl
  | cons c cs ih =>
    rw [utf8Bytes_cons]
    by_cases hc : c = d
    · subst hc
      rw [utf8EncodeChar_of_ascii hd, List.singleton_append, Text.splitPieces, ih]
      simp [Text.splitPieces]
    · rw [Text.splitPieces_append_of_not_mem (mt (ascii_mem_utf8EncodeChar hd).1 hc), ih]
      simp [Text.splitPieces, hc, utf8Bytes_cons]

theorem splitOn_utf8Bytes {d : Char} (hd : d.toNat < 128) (cs : List Char) :
    Text.splitOn d.toUInt8 (utf8Bytes cs) = (Text.splitOn d cs).map utf8Bytes := by
  simp [Text.splitOn, splitPieces_utf8Bytes hd]

/-! ## Lines of bytes and lines of text -/

/-- A line of text that ended with a line feed, without one carriage return before the feed. -/
def chompReturn (l : List Char) : List Char := if l.getLast? = some '\r' then l.dropLast else l

/-- The lines of some characters as a file reader gives them: cut at each line feed, with no line
for the empty piece after a final feed, and without one carriage return before each feed. -/
def charLines (cs : List Char) : List (List Char) :=
  let pieces := Text.splitOn '\n' cs
  match pieces.getLast? with
  | some [] => pieces.dropLast.map chompReturn
  | some last => pieces.dropLast.map chompReturn ++ [last]
  | none => []

/-- The lines of a text. -/
def textLines (text : String) : List String := (charLines text.toList).map String.ofList

example : textLines "a\r\nb\n\nc" = ["a", "b", "", "c"] := by decide

theorem lineFeed_eq : lineFeed = ('\n' : Char).toUInt8 := rfl

theorem carriageReturn_eq : carriageReturn = ('\r' : Char).toUInt8 := rfl

/-- A carriage return is dropped from the bytes of a line exactly when it ends the line's
characters. -/
theorem dropReturn_utf8Bytes (l : List Char) :
    dropReturn (utf8Bytes l) = utf8Bytes (chompReturn l) := by
  obtain rfl | ⟨l, c, rfl⟩ := l.eq_nil_or_concat
  · rfl
  · rw [List.concat_eq_append]
    have hcr : ('\r' : Char).toNat < 128 := by decide
    by_cases hc : c = '\r'
    · subst hc
      simp [dropReturn, chompReturn, utf8Bytes, utf8EncodeChar_of_ascii hcr, carriageReturn_eq]
    · -- the last byte belongs to `c`, and only a carriage return has that byte
      have hlast : (utf8Bytes (l ++ [c])).getLast? ≠ some carriageReturn := by
        intro h
        rw [utf8Bytes_append, List.getLast?_append] at h
        have hne : utf8Bytes [c] ≠ [] := by simp
        obtain ⟨b, hb⟩ := Option.isSome_iff_exists.1 (List.getLast?_isSome.2 hne)
        rw [hb, Option.some_or] at h
        rw [h] at hb
        have hmem : carriageReturn ∈ String.utf8EncodeChar c := by
          simpa [utf8Bytes] using List.mem_of_getLast? hb
        exact hc ((ascii_mem_utf8EncodeChar hcr).1 hmem)
      have hchomp : chompReturn (l ++ [c]) = l ++ [c] := by simp [chompReturn, hc]
      rw [dropReturn, if_neg hlast, hchomp]

/-- The lines of the bytes of some characters are the bytes of their lines. -/
theorem byteLines_utf8Bytes (cs : List Char) :
    byteLines (utf8Bytes cs) = (charLines cs).map utf8Bytes := by
  have hlf : ('\n' : Char).toNat < 128 := by decide
  unfold byteLines charLines
  dsimp only
  rw [lineFeed_eq, splitOn_utf8Bytes hlf, List.getLast?_map]
  cases h : (Text.splitOn '\n' cs).getLast? with
  | none => rfl
  | some last =>
    have hdrop : ((Text.splitOn '\n' cs).map utf8Bytes).dropLast.map dropReturn =
        ((Text.splitOn '\n' cs).dropLast.map chompReturn).map utf8Bytes := by
      rw [← List.map_dropLast, List.map_map, List.map_map]
      exact List.map_congr_left fun l _ => dropReturn_utf8Bytes l
    -- the last piece is no line exactly when it is empty, in bytes as in characters
    cases last with
    | nil => simp [hdrop]
    | cons c rest =>
      obtain ⟨b, bs, hb⟩ := List.exists_cons_of_ne_nil (mt utf8Bytes_eq_nil.1 (List.cons_ne_nil c rest))
      rw [Option.map_some, hb, hdrop, ← hb]
      simp

/-! ## Decoding the lines -/

/-- Lines that are the bytes of characters all decode, to those characters. -/
theorem decodeLines_utf8Bytes (ls : List (List Char)) :
    decodeLines (ls.map utf8Bytes) = (ls.map String.ofList, none) := by
  induction ls with
  | nil => rfl
  | cons l ls ih => simp [decodeLines, fromUTF8?_utf8Bytes, ih]

/-- Reading lines ends without a fault exactly when every line is UTF-8. -/
theorem decodeLines_snd_eq_none_iff (ls : List (List UInt8)) :
    (decodeLines ls).2 = none ↔ ∀ l ∈ ls, IsUtf8 l := by
  induction ls with
  | nil => simp [decodeLines]
  | cons l ls ih =>
    unfold decodeLines
    cases h : String.fromUTF8? ⟨l.toArray⟩ with
    | none =>
      have hl : ¬ IsUtf8 l := by simp [← fromUTF8?_isSome_iff, h]
      simp [hl]
    | some s =>
      have hl : IsUtf8 l := by simp [← fromUTF8?_isSome_iff, h]
      simp [hl, ih]

/-- The only fault of reading lines is a line that is not UTF-8. -/
theorem decodeLines_snd_eq_notUtf8 {ls : List (List UInt8)} (h : (decodeLines ls).2 ≠ none) :
    (decodeLines ls).2 = some .notUtf8 := by
  induction ls with
  | nil => simp [decodeLines] at h
  | cons l ls ih =>
    unfold decodeLines at h ⊢
    split
    · rfl
    · rename_i heq
      rw [heq] at h
      exact ih h

/-! ## The pieces of a file and the whole -/

/-- Bytes whose pieces between line feeds are all UTF-8 are UTF-8, after any UTF-8 start that
the first piece continues. -/
theorem isUtf8_of_splitPieces (p bs : List UInt8)
    (hfirst : IsUtf8 (p ++ (Text.splitPieces lineFeed bs).1))
    (hrest : ∀ q ∈ (Text.splitPieces lineFeed bs).2, IsUtf8 q) : IsUtf8 (p ++ bs) := by
  induction bs generalizing p with
  | nil => simpa [Text.splitPieces] using hfirst
  | cons b bs ih =>
    by_cases hb : b = lineFeed
    · -- a feed closes the first piece, which is then `p` alone; the rest starts afresh
      subst hb
      simp only [Text.splitPieces, if_true, List.append_nil, List.mem_cons,
        forall_eq_or_imp] at hfirst hrest
      have hbs : IsUtf8 ([] ++ bs) := ih [] (by simpa using hrest.1) hrest.2
      have hlf : [lineFeed] = utf8Bytes ['\n'] := rfl
      rw [List.nil_append] at hbs
      rw [← List.singleton_append, ← List.append_assoc]
      exact (hfirst.append ⟨['\n'], hlf⟩).append hbs
    · -- any other byte moves from the first piece onto the start
      simp only [Text.splitPieces, hb, if_false] at hfirst hrest
      have := ih (p ++ [b]) (by simpa using hfirst) hrest
      simpa using this

/-- A line whose carriage return was dropped is UTF-8 only if it was with it. -/
theorem isUtf8_of_dropReturn {l : List UInt8} (h : IsUtf8 (dropReturn l)) : IsUtf8 l := by
  unfold dropReturn at h
  split at h
  · rename_i hcr
    obtain ⟨init, rfl⟩ := List.getLast?_eq_some_iff.1 hcr
    rw [List.dropLast_concat] at h
    exact h.append ⟨['\r'], rfl⟩
  · exact h

/-- The lines of a file are its pieces before a feed without their carriage return, and then its
last piece unless it is empty. -/
theorem byteLines_eq_of_splitOn {bytes last : List UInt8} {init : List (List UInt8)}
    (h : Text.splitOn lineFeed bytes = init ++ [last]) :
    byteLines bytes = init.map dropReturn ++ (if last = [] then [] else [last]) := by
  unfold byteLines
  dsimp only
  rw [h, List.getLast?_concat, List.dropLast_concat]
  cases last <;> simp

/-- Bytes whose lines are all UTF-8 are UTF-8. -/
theorem isUtf8_of_byteLines {bytes : List UInt8} (h : ∀ l ∈ byteLines bytes, IsUtf8 l) :
    IsUtf8 bytes := by
  -- the pieces between feeds are never none at all
  obtain ⟨init, last, hsplit⟩ : ∃ init last, Text.splitOn lineFeed bytes = init ++ [last] := by
    rcases (Text.splitOn lineFeed bytes).eq_nil_or_concat with hnil | ⟨init, last, hcat⟩
    · simp [Text.splitOn] at hnil
    · exact ⟨init, last, by rw [hcat, List.concat_eq_append]⟩
  rw [byteLines_eq_of_splitOn hsplit] at h
  have hpieces : ∀ q ∈ Text.splitOn lineFeed bytes, IsUtf8 q := by
    intro q hq
    rw [hsplit, List.mem_append, List.mem_singleton] at hq
    rcases hq with hq | rfl
    · exact isUtf8_of_dropReturn (h _ (List.mem_append_left _ (List.mem_map_of_mem hq)))
    · by_cases hq : q = []
      · exact ⟨[], hq⟩
      · exact h q (List.mem_append_right _ (by simp [hq]))
  have := isUtf8_of_splitPieces [] bytes (by simpa using hpieces _ List.mem_cons_self)
    (fun q hq => hpieces q (List.mem_cons_of_mem _ hq))
  simpa using this

/-! ## Replaying a file -/

/-- A byte array is the array of its bytes. -/
theorem mk_toList_toArray (bytes : ByteArray) : (⟨bytes.toList.toArray⟩ : ByteArray) = bytes := by
  rw [ByteArray.toList, Text.byteArray_toList_loop]
  simp

/-- The lines of a UTF-8 file decode to the lines of its text. -/
theorem decodeLines_byteLines_of_text {bytes : ByteArray} {text : String}
    (h : String.fromUTF8? bytes = some text) :
    decodeLines (byteLines bytes.toList) = (textLines text, none) := by
  have hbytes : bytes = text.toByteArray := by
    unfold String.fromUTF8? at h
    split at h
    · cases h
      rfl
    · cases h
  rw [hbytes, Text.toByteArray_toList, ← utf8Bytes, byteLines_utf8Bytes, decodeLines_utf8Bytes]
  rfl

/-- Reading the lines of a file that is not UTF-8 ends with that fault, wherever the bad bytes
stand. -/
theorem decodeLines_byteLines_of_not_text {bytes : ByteArray} (h : String.fromUTF8? bytes = none) :
    (decodeLines (byteLines bytes.toList)).2 = some .notUtf8 := by
  apply decodeLines_snd_eq_notUtf8
  intro hnone
  -- every line decoded, so the whole file is UTF-8
  have hutf8 := isUtf8_of_byteLines ((decodeLines_snd_eq_none_iff _).1 hnone)
  have hsome := (fromUTF8?_isSome_iff bytes.toList).2 hutf8
  rw [mk_toList_toArray, h] at hsome
  exact Bool.false_ne_true hsome

/-- Replaying a file fails when it cannot be read, fails with the UTF-8 fault exactly when its
bytes are not UTF-8, and otherwise counts the lines of its text as replaying them in memory
does. -/
theorem replayFile_summary (t : ModelTable) (files : FileView) (path : String) :
    (AccessLog.replayFile t files path).summary =
      match files path with
      | .error f => .error f
      | .ok bytes =>
        match String.fromUTF8? bytes with
        | none => .error .notUtf8
        | some text => .ok (AccessLog.replayLines t (textLines text)) := by
  unfold AccessLog.replayFile AccessLog.FileReplay.summary FileView.lines
  cases hfile : files path with
  | error f => rfl
  | ok bytes =>
    cases htext : String.fromUTF8? bytes with
    | none => simp [decodeLines_byteLines_of_not_text htext, htext]
    | some text =>
      simp [decodeLines_byteLines_of_text htext, htext, AccessLog.replayLines, Function.comp_def]

end FirmwareRedirect
