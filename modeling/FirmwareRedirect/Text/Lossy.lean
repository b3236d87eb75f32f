/-!
# Decoding UTF-8 with replacement

Bytes that are not UTF-8 still have a text: each well-formed sequence is its character, and each
maximal part of an ill-formed one becomes U+FFFD. A maximal part is the longest run of bytes
that starts like a valid sequence (the lead byte and the continuation bytes allowed after it) but
is cut short; a byte that can start no sequence is a part of its own. So `F0 9F 98 41` is U+FFFD
followed by `A`, and `FF FE` is two U+FFFD.

Valid UTF-8 decodes to itself.
-/

namespace FirmwareRedirect.Text

/-- The character that stands for an ill-formed part. -/
def replacementChar : Char := '\uFFFD'

/-- Whether a byte continues a sequence. -/
def isContinuation (b : UInt8) : Bool := 0x80 ≤ b && b ≤ 0xBF

/-- The bounds of the second byte after a three- or four-byte lead, which rule out overlong
forms, surrogates and code points past U+10FFFF. -/
def secondByteRange (lead : UInt8) : UInt8 × UInt8 :=
  if lead = 0xE0 then (0xA0, 0xBF)
  else if lead = 0xED then (0x80, 0x9F)
  else if lead = 0xF0 then (0x90, 0xBF)
  else if lead = 0xF4 then (0x80, 0x8F)
  else (0x80, 0xBF)

/-- Whether `b` may follow `lead` as the second byte of a sequence. -/
def secondFits (lead b : UInt8) : Bool :=
  (secondByteRange lead).1 ≤ b && b ≤ (secondByteRange lead).2

/-- The low six bits of a continuation byte. -/
def payload (b : UInt8) : Nat := b.toNat % 64

/-- The character at the front of `lead :: rest`, and how many bytes of `rest` it takes. -/
def frontChar (lead : UInt8) (rest : List UInt8) : Char × Nat :=
  if lead < 0x80 then (Char.ofNat lead.toNat, 0)
  else if 0xC2 ≤ lead && lead ≤ 0xDF then
    match rest with
    | b1 :: _ =>
      if isContinuation b1 then (Char.ofNat ((lead.toNat % 32) * 64 + payload b1), 1)
      else (replacementChar, 0)
    | [] => (replacementChar, 0)
  else if 0xE0 ≤ lead && lead ≤ 0xEF then
    match rest with
    | b1 :: b2 :: _ =>
      if !secondFits lead b1 then (replacementChar, 0)
      else if !isContinuation b2 then (replacementChar, 1)
      else (Char.ofNat ((lead.toNat % 16) * 4096 + payload b1 * 64 + payload b2), 2)
    | [b1] => (replacementChar, if secondFits lead b1 then 1 else 0)
    | [] => (replacementChar, 0)
  else if 0xF0 ≤ lead && lead ≤ 0xF4 then
    match rest with
    | b1 :: b2 :: b3 :: _ =>
      if !secondFits lead b1 then (replacementChar, 0)
      else if !isContinuation b2 then (replacementChar, 1)
      else if !isContinuation b3 then (replacementChar, 2)
      else
        (Char.ofNat ((lead.toNat % 8) * 262144 + payload b1 * 4096 + payload b2 * 64 +
          payload b3), 3)
    | [b1, b2] =>
      (replacementChar,
        if !secondFits lead b1 then 0 else if !isContinuation b2 then 1 else 2)
    | [b1] => (replacementChar, if secondFits lead b1 then 1 else 0)
    | [] => (replacementChar, 0)
  else (replacementChar, 0)

/-- The characters of a byte list, each ill-formed part replaced. -/
def lossyChars : List UInt8 → List Char
  | [] => []
  | b :: bs => (frontChar b bs).1 :: lossyChars (bs.drop (frontChar b bs).2)
termination_by bs => bs.length
decreasing_by simp only [List.length_drop, List.length_cons]; omega

/-- The text of some bytes, each ill-formed part replaced by U+FFFD. -/
def decodeLossy (bytes : List UInt8) : String := String.ofList (lossyChars bytes)

/-! ## Valid UTF-8 decodes to itself

The encoding of a character is a sequence that `frontChar` reads whole: its lead byte has the
range of its length, and its second byte the range the lead allows, since the character is
neither overlong, a surrogate, nor past U+10FFFF. So the bytes of any string decode to it. -/

/-- A byte is in a range exactly when its number is. -/
theorem byte_between_iff {lo hi b : UInt8} :
    (lo ≤ b && b ≤ hi) = true ↔ lo.toNat ≤ b.toNat ∧ b.toNat ≤ hi.toNat := by
  simp [UInt8.le_iff_toNat_le]

theorem isContinuation_of_toNat {b : UInt8} (h : 0x80 ≤ b.toNat ∧ b.toNat ≤ 0xBF) :
    isContinuation b = true :=
  byte_between_iff.2 h

/-- A byte below `0x80` is a character of its own. -/
theorem frontChar_one {lead : UInt8} (rest : List UInt8) (h : lead.toNat < 0x80) :
    frontChar lead rest = (Char.ofNat lead.toNat, 0) := by
  have : lead < 0x80 := UInt8.lt_iff_toNat_lt.mpr h
  simp [frontChar, this]

/-- A lead from `C2` to `DF` and one continuation byte make a character. -/
theorem frontChar_two {lead b1 : UInt8} (rest : List UInt8)
    (hl : 0xC2 ≤ lead.toNat ∧ lead.toNat ≤ 0xDF) (h1 : 0x80 ≤ b1.toNat ∧ b1.toNat ≤ 0xBF) :
    frontChar lead (b1 :: rest) = (Char.ofNat ((lead.toNat % 32) * 64 + b1.toNat % 64), 1) := by
  have h0 : ¬ lead < 0x80 := by rw [UInt8.lt_iff_toNat_lt]; simp; omega
  have h2 : (0xC2 ≤ lead && lead ≤ 0xDF) = true := byte_between_iff.2 hl
  simp [frontChar, h0, h2, isContinuation_of_toNat h1, payload]

/-- A lead from `E0` to `EF`, a second byte that fits it and a continuation byte make a
character. -/
theorem frontChar_three {lead b1 b2 : UInt8} (rest : List UInt8)
    (hl : 0xE0 ≤ lead.toNat ∧ lead.toNat ≤ 0xEF)
    (hs : secondFits lead b1 = true) (h2 : 0x80 ≤ b2.toNat ∧ b2.toNat ≤ 0xBF) :
    frontChar lead (b1 :: b2 :: rest) =
      (Char.ofNat ((lead.toNat % 16) * 4096 + b1.toNat % 64 * 64 + b2.toNat % 64), 2) := by
  have h0 : ¬ lead < 0x80 := by rw [UInt8.lt_iff_toNat_lt]; simp; omega
  have hn2 : (0xC2 ≤ lead && lead ≤ 0xDF) = false := by
    simp [UInt8.le_iff_toNat_le]; omega
  have h3 : (0xE0 ≤ lead && lead ≤ 0xEF) = true := byte_between_iff.2 hl
  simp [frontChar, h0, hn2, h3, hs, isContinuation_of_toNat h2, payload]

/-- A lead from `F0` to `F4`, a second byte that fits it and two continuation bytes make a
character. -/
theorem frontChar_four {lead b1 b2 b3 : UInt8} (rest : List UInt8)
    (hl : 0xF0 ≤ lead.toNat ∧ lead.toNat ≤ 0xF4)
    (hs : secondFits lead b1 = true) (h2 : 0x80 ≤ b2.toNat ∧ b2.toNat ≤ 0xBF)
    (h3 : 0x80 ≤ b3.toNat ∧ b3.toNat ≤ 0xBF) :
    frontChar lead (b1 :: b2 :: b3 :: rest) =
      (Char.ofNat ((lead.toNat % 8) * 262144 + b1.toNat % 64 * 4096 + b2.toNat % 64 * 64 +
        b3.toNat % 64), 3) := by
  have h0 : ¬ lead < 0x80 := by rw [UInt8.lt_iff_toNat_lt]; simp; omega
  have hn2 : (0xC2 ≤ lead && lead ≤ 0xDF) = false := by
    simp [UInt8.le_iff_toNat_le]; omega
  have hn3 : (0xE0 ≤ lead && lead ≤ 0xEF) = false := by
    simp [UInt8.le_iff_toNat_le]; omega
  have h4 : (0xF0 ≤ lead && lead ≤ 0xF4) = true := byte_between_iff.2 hl
  simp [frontChar, h0, hn2, hn3, h4, hs, isContinuation_of_toNat h2, isContinuation_of_toNat h3,
    payload]

/-- The second-byte rule on numbers: `E0` and `F0` raise the lower bound, `ED` and `F4` lower
the upper one. -/
theorem secondFits_iff (lead b : UInt8) : secondFits lead b = true ↔
    (if lead.toNat = 0xE0 then 0xA0 else if lead.toNat = 0xF0 then 0x90 else 0x80) ≤ b.toNat ∧
      b.toNat ≤ (if lead.toNat = 0xED then 0x9F else if lead.toNat = 0xF4 then 0x8F else 0xBF) := by
  unfold secondFits secondByteRange
  by_cases h0 : lead = 0xE0 <;> by_cases h1 : lead = 0xED <;> by_cases h2 : lead = 0xF0 <;>
    by_cases h3 : lead = 0xF4 <;> simp_all [← UInt8.toNat_inj, UInt8.le_iff_toNat_le]

/-- The bytes of a character read back as that character, and all of them are taken. -/
theorem frontChar_encode (c : Char) (rest : List UInt8) :
    ∃ lead tail, String.utf8EncodeChar c = lead :: tail ∧
      frontChar lead (tail ++ rest) = (c, tail.length) := by
  have hvalid : c.toNat < 0xd800 ∨ (0xdfff < c.toNat ∧ c.toNat < 0x110000) := by
    simpa [UInt32.isValidChar, Nat.isValidChar] using c.valid
  have hval : c.val.toNat = c.toNat := rfl
  have hchar : ∀ n, n = c.toNat → Char.ofNat n = c := fun n h => h ▸ Char.ofNat_toNat c
  unfold String.utf8EncodeChar
  simp only [hval]
  -- one case per length of the encoding; the bounds are `omega` facts on the code point
  split
  · refine ⟨_, _, rfl, ?_⟩
    rw [frontChar_one _ (by simp; omega), hchar _ (by simp; omega)]
    rfl
  split
  · refine ⟨_, _, rfl, ?_⟩
    rw [List.cons_append, List.nil_append, frontChar_two _ (by simp; omega) (by simp; omega),
      hchar _ (by simp; omega)]
    rfl
  split
  · refine ⟨_, _, rfl, ?_⟩
    -- below U+1000 the second byte is at least `A0`; from U+D000 it stops short of surrogates
    have hs : secondFits (UInt8.ofNat (c.toNat / 4096 % 16 + 224))
        (UInt8.ofNat (c.toNat / 64 % 64 + 128)) = true := by
      rw [secondFits_iff]
      simp only [UInt8.toNat_ofNat', Nat.reducePow]
      repeat' split
      all_goals omega
    rw [List.cons_append, List.cons_append, List.nil_append,
      frontChar_three _ (by simp; omega) hs (by simp; omega), hchar _ (by simp; omega)]
    rfl
  · refine ⟨_, _, rfl, ?_⟩
    have hs : secondFits (UInt8.ofNat (c.toNat / 262144 % 8 + 240))
        (UInt8.ofNat (c.toNat / 4096 % 64 + 128)) = true := by
      rw [secondFits_iff]
      simp only [UInt8.toNat_ofNat', Nat.reducePow]
      repeat' split
      all_goals omega
    rw [List.cons_append, List.cons_append, List.cons_append, List.nil_append,
      frontChar_four _ (by simp; omega) hs (by simp; omega) (by simp; omega),
      hchar _ (by simp; omega)]
    rfl

theorem lossyChars_cons (b : UInt8) (bs : List UInt8) :
    lossyChars (b :: bs) = (frontChar b bs).1 :: lossyChars (bs.drop (frontChar b bs).2) := by
  rw [lossyChars]

/-- Decoding the bytes of a character followed by anything gives that character first. -/
theorem lossyChars_encode_append (c : Char) (rest : List UInt8) :
    lossyChars (String.utf8EncodeChar c ++ rest) = c :: lossyChars rest := by
  obtain ⟨lead, tail, henc, hfront⟩ := frontChar_encode c rest
  rw [henc, List.cons_append, lossyChars_cons, hfront, List.drop_left]

theorem lossyChars_flatMap_encode (cs : List Char) :
    lossyChars (cs.flatMap String.utf8EncodeChar) = cs := by
  induction cs with
  | nil => simp [lossyChars]
  | cons c cs ih => rw [List.flatMap_cons, lossyChars_encode_append, ih]

/-- Reading a byte array into a list keeps the bytes from the index on, after what the loop
has gathered. -/
theorem byteArray_toList_loop (bs : ByteArray) (i : Nat) (r : List UInt8) :
    ByteArray.toList.loop bs i r = r.reverse ++ bs.data.toList.drop i := by
  fun_induction ByteArray.toList.loop bs i r with
  | case1 i r hlt ih =>
    -- the byte at `i` is gathered last, so once reversed it comes right before the rest
    have hlen : i < bs.data.toList.length := by simpa using hlt
    have hget : bs.get! i = bs.data.toList[i] := by simp [ByteArray.get!, hlt]
    rw [ih, List.reverse_cons, List.append_assoc, List.singleton_append, hget,
      List.getElem_cons_drop]
  | case2 i r hend =>
    have hrest : bs.data.toList.drop i = [] := List.drop_eq_nil_iff.mpr (by simp; omega)
    rw [hrest, List.append_nil]

/-- The UTF-8 bytes of a string are the encodings of its characters, in order. -/
theorem toByteArray_toList (s : String) :
    s.toByteArray.toList = s.toList.flatMap String.utf8EncodeChar := by
  rw [ByteArray.toList, byteArray_toList_loop, ← String.utf8Encode_toList, List.utf8Encode]
  simp

/-- The UTF-8 bytes of a string decode to the string: nothing is replaced. -/
@[simp] theorem decodeLossy_toByteArray (s : String) : decodeLossy s.toByteArray.toList = s := by
  rw [decodeLossy, toByteArray_toList, lossyChars_flatMap_encode, String.ofList_toList]

/-- A non-empty text has bytes. -/
theorem toByteArray_toList_ne_nil {s : String} (h : s ≠ "") : s.toByteArray.toList ≠ [] := by
  obtain ⟨c, cs, hcs⟩ := List.exists_cons_of_ne_nil (mt String.toList_eq_nil_iff.mp h)
  rw [toByteArray_toList, hcs, List.flatMap_cons]
  exact List.append_ne_nil_of_left_ne_nil String.utf8EncodeChar_ne_nil _

end FirmwareRedirect.Text
