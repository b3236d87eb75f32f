import FirmwareRedirect.Models.Resolve
/-!
# Resolving a device, rule by rule

`classify` states the resolution rules in their own words. A version of `-` carries no model
information. An ID that does not hold exactly one space is malformed. Otherwise the family of the
token before the space (up to its first `-`) is looked up, and its designation (up to its first
`#`) only when the family is not a key; `x` marks a device without a build, and a missing or
empty value an unknown family.

Main statement: `ModelTable.resolve` is `classify` for every table, version and ID, so what a
device sends after the space never changes its outcome.

Putting one entry into the table changes only the devices that look it up: those whose family is
its key, and those whose designation is its key while their family is not a key. Those devices
get the new value's outcome; every other device resolves as before (`resolve_insert`).
-/

namespace FirmwareRedirect

/-- How a device is resolved, in the words of the rules. -/
def classify (t : ModelTable) (fw id : String) : Except ResolveError String :=
  if fw = "-" then .error .noFirmwareInfo
  else if id.toList.count ' ' ≠ 1 then .error (.malformedDeviceId id)
  else
    let dev := id.toList.takeWhile (· ≠ ' ')
    let pre := String.ofList (dev.takeWhile (· ≠ '-'))
    let key := if t.contains pre then pre else String.ofList (dev.takeWhile (· ≠ '#'))
    match t.get? key with
    | some m =>
      if m = "x" then .error (.unsupportedModel key)
      else if m = "" then .error (.unknownModel pre)
      else .ok m
    | none => .error (.unknownModel pre)

/-- An ID names a device token exactly when it holds one space; the token is the text before
it. -/
theorem deviceToken?_eq (id : String) :
    deviceToken? id =
      if id.toList.count ' ' = 1 then some (id.toList.takeWhile (· ≠ ' ')) else none := by
  have hlen := Text.length_splitPieces_snd ' ' id.toList
  rw [deviceToken?, Text.splitOn, Text.splitPieces_fst]
  -- the pieces after the first are as many as the spaces: none, one, or two and more
  rcases h : (Text.splitPieces ' ' id.toList).2 with _ | ⟨b, _ | ⟨b', rest⟩⟩ <;> simp_all <;>
    omega

/-- The family is looked up first, and the designation only when the family is not a key. -/
theorem lookupToken_eq (t : ModelTable) (token : List Char) :
    lookupToken t token =
      let key := if t.contains (family token) then family token else designation token
      (key, t.get? key) := by
  cases h : t.get? (family token) <;> simp [lookupToken, ModelTable.contains, h]

/-- The text before the first `c` of `l ++ c :: r` is `l` when `l` holds no `c`. -/
theorem takeWhile_ne_append {c : Char} {l r : List Char} (h : c ∉ l) :
    (l ++ c :: r).takeWhile (· ≠ c) = l := by
  -- every character of `l` passes the test, and `c` stops it
  have hl : ∀ a ∈ l, decide (a ≠ c) = true := by
    intro a ha
    rw [decide_eq_true_eq]
    rintro rfl
    exact h ha
  rw [List.takeWhile_append_of_pos hl, List.takeWhile_cons_of_neg (by simp), List.append_nil]

/-- Resolution follows the rules, and a device's descriptor never changes its outcome. -/
theorem resolve_eq_classify (t : ModelTable) (fw : String) :
    (∀ id, t.resolve fw id = classify t fw id) ∧
    ∀ token d d' : String, ' ' ∉ token.toList → ' ' ∉ d.toList → ' ' ∉ d'.toList →
      t.resolve fw (token ++ " " ++ d) = t.resolve fw (token ++ " " ++ d') := by
  have hspec : ∀ id, t.resolve fw id = classify t fw id := by
    intro id
    unfold ModelTable.resolve classify
    rw [deviceToken?_eq]
    by_cases hfw : fw = "-"
    · simp [hfw, noFirmwareVersion]
    by_cases hone : id.toList.count ' ' = 1
    · -- the family is looked up, and the designation when the family is not a key
      simp only [noFirmwareVersion, hfw, hone, if_false, if_true, ne_eq, not_true_eq_false,
        lookupToken_eq, family, designation]
      -- both sides are now the same case analysis of the entry found
      unfold decideEntry unsupportedMarker
      rfl
    · simp [noFirmwareVersion, hfw, hone]
  refine ⟨hspec, fun token d d' htok hd hd' => ?_⟩
  -- with one space, only the token before it is read
  have hsplit : ∀ e : String, ' ' ∉ e.toList →
      (token ++ " " ++ e).toList.count ' ' = 1 ∧
        (token ++ " " ++ e).toList.takeWhile (· ≠ ' ') = token.toList := by
    intro e he
    have hcs : (token ++ " " ++ e).toList = token.toList ++ ' ' :: e.toList := by simp
    rw [hcs, takeWhile_ne_append htok]
    simp [List.count_eq_zero_of_not_mem htok, List.count_eq_zero_of_not_mem he]
  rw [hspec, hspec, classify, classify, (hsplit d hd).1, (hsplit d' hd').1, (hsplit d hd).2,
    (hsplit d' hd').2]
  simp

/-- A family mapped to the empty text is unknown; the designation is not tried. -/
example : ((ModelTable.empty.insert "SHSW" "").insert "SHSW-25" "Shelly25").resolve "1.0"
    "SHSW-25#A 1.2" = .error (.unknownModel "SHSW") := by rfl

/-! ## One more entry -/

/-- A table with one more entry has its key, and the old keys. -/
theorem ModelTable.contains_insert (t : ModelTable) (k v k' : String) :
    (t.insert k v).contains k' = (k == k' || t.contains k') := by
  by_cases h : k = k' <;> simp [ModelTable.contains, h]

/-- A token's lookup finds a new entry when its key is the family, or the designation of a
family that is not a key; every other lookup is the old one. -/
theorem lookupToken_insert (t : ModelTable) (k v : String) (token : List Char) :
    lookupToken (t.insert k v) token =
      if k = family token ∨ (k = designation token ∧ t.contains (family token) = false) then
        (k, some v)
      else lookupToken t token := by
  rw [lookupToken_eq, lookupToken_eq]
  by_cases hf : k = family token
  · simp [hf, ModelTable.contains_insert]
  by_cases hc : t.contains (family token) = true
  · simp [hf, hc, ModelTable.contains_insert]
  by_cases hd : k = designation token
  · have hdf : family token ≠ designation token := fun h => hf (hd.trans h.symm)
    simp [hc, hd, Ne.symm hdf, ModelTable.contains_insert]
  · simp [hf, hc, hd, ModelTable.contains_insert]

/-- A device with a version and a token is decided by the lookup of its token. -/
theorem resolve_of_token (t : ModelTable) {fw id : String} {token : List Char} (hfw : fw ≠ "-")
    (htok : deviceToken? id = some token) :
    t.resolve fw id = decideEntry (family token) (lookupToken t token).1 (lookupToken t token).2 := by
  simp [ModelTable.resolve, htok, noFirmwareVersion, hfw]

/-- Without a version or a token, the table is never read. -/
theorem resolve_of_not_token (t t' : ModelTable) {fw id : String}
    (h : fw = "-" ∨ deviceToken? id = none) : t.resolve fw id = t'.resolve fw id := by
  rcases h with hfw | htok
  · simp [ModelTable.resolve, noFirmwareVersion, hfw]
  · simp [ModelTable.resolve, htok]

/-- Resolution in a table with one more entry: a device whose lookup finds the entry gets the
outcome of its value, and every other device the old outcome. -/
theorem resolve_insert_eq (t : ModelTable) (k v fw id : String) :
    (t.insert k v).resolve fw id =
      match deviceToken? id with
      | some token =>
        if fw ≠ "-" ∧
            (k = family token ∨ (k = designation token ∧ t.contains (family token) = false)) then
          if v = "x" then .error (.unsupportedModel k)
          else if v = "" then .error (.unknownModel (family token))
          else .ok v
        else t.resolve fw id
      | none => t.resolve fw id := by
  cases htok : deviceToken? id with
  | none => exact resolve_of_not_token _ _ (.inr htok)
  | some token =>
    dsimp only
    by_cases hfw : fw = "-"
    · rw [if_neg (fun h => h.1 hfw)]
      exact resolve_of_not_token _ _ (.inl hfw)
    rw [resolve_of_token _ hfw htok, resolve_of_token _ hfw htok, lookupToken_insert]
    by_cases hk : k = family token ∨ (k = designation token ∧ t.contains (family token) = false)
    · rw [if_pos hk, if_pos ⟨hfw, hk⟩]
      rfl
    · rw [if_neg hk, if_neg (fun h => hk h.2)]

/-- Putting `k ↦ v` into a table changes the outcome of a device only when the device has a
version and a token whose family is `k`, or whose designation is `k` while its family is not a
key; the device then gets `v` as its model, or `x`'s and the empty value's errors. So an entry
under neither key of a device never changes it, and an entry with a model as its value never
makes a resolving device fail. -/
theorem resolve_insert (t : ModelTable) (k v fw id : String) :
    (t.insert k v).resolve fw id =
      (match deviceToken? id with
      | some token =>
        if fw ≠ "-" ∧
            (k = family token ∨ (k = designation token ∧ t.contains (family token) = false)) then
          if v = "x" then .error (.unsupportedModel k)
          else if v = "" then .error (.unknownModel (family token))
          else .ok v
        else t.resolve fw id
      | none => t.resolve fw id) ∧
    (∀ token, deviceToken? id = some token → k ≠ family token → k ≠ designation token →
      (t.insert k v).resolve fw id = t.resolve fw id) ∧
    (v ≠ "" → v ≠ "x" → (t.resolve fw id).isOk → ((t.insert k v).resolve fw id).isOk) := by
  refine ⟨resolve_insert_eq t k v fw id, fun token htok hf hd => ?_, fun hv hx hok => ?_⟩
  · -- the new key is neither of the keys the device is looked up under
    rw [resolve_insert_eq, htok]
    exact if_neg fun ⟨_, h⟩ => h.elim hf fun h => hd h.1
  · rw [resolve_insert_eq]
    cases deviceToken? id with
    | none => exact hok
    | some token =>
      dsimp only
      by_cases hc : fw ≠ "-" ∧
          (k = family token ∨ (k = designation token ∧ t.contains (family token) = false))
      · -- the device now finds `v`, and `v` is a model
        rw [if_pos hc, if_neg hx, if_neg hv]
        rfl
      · rw [if_neg hc]
        exact hok

/-- A family entry shadows the designation entry a device resolved through before. -/
example : (ModelTable.empty.insert "SHSW-25" "Shelly25").resolve "1.0" "SHSW-25#A 1" =
      .ok "Shelly25" ∧
    ((ModelTable.empty.insert "SHSW-25" "Shelly25").insert "SHSW" "Shelly1").resolve "1.0"
      "SHSW-25#A 1" = .ok "Shelly1" := by
  constructor <;> rfl

end FirmwareRedirect
