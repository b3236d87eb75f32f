import FirmwareRedirect.Text.Html
/-!
# Escaping text for HTML

`Text.Html.escape` runs five replacements over the whole text, the ampersand first. Each
replacement looks only for its own character, and no entity holds a character that a later
replacement looks for, so the chain escapes every character of the text exactly once, as
`escapeChars` does in one pass.

Main statement: `escape_chain_correct`. The escaped text holds no `<`, `>`, `"` or `'`, every
`&` in it starts one of the five entities, and reading the entities back from left to right gives
the text that was escaped, so two texts never escape alike.
-/

namespace FirmwareRedirect.Text.Html

/-! ## The five entities -/

/-- The five entities, each with the character it stands for. -/
def entities : List (Char × List Char) :=
  [('&', "&amp;".toList), ('<', "&lt;".toList), ('>', "&gt;".toList), ('"', "&quot;".toList),
    ('\'', "&#x27;".toList)]

theorem mem_entities_fst (c : Char) :
    c ∈ entities.map (·.1) ↔ c = '&' ∨ c = '<' ∨ c = '>' ∨ c = '"' ∨ c = '\'' := by
  simp [entities]

theorem not_mem_entities_fst (c : Char) :
    c ∉ entities.map (·.1) ↔ c ≠ '&' ∧ c ≠ '<' ∧ c ≠ '>' ∧ c ≠ '"' ∧ c ≠ '\'' := by
  simp only [mem_entities_fst, not_or, ne_eq]

/-- A character is written as itself, or as the entity that stands for it. -/
theorem escapeChar_cases (c : Char) :
    (c ∉ entities.map (·.1) ∧ escapeChar c = [c]) ∨ ∃ e ∈ entities, e.1 = c ∧ escapeChar c = e.2 := by
  by_cases hc : c ∈ entities.map (·.1)
  · -- one of the five is written as its entity
    right
    rw [mem_entities_fst] at hc
    rcases hc with rfl | rfl | rfl | rfl | rfl <;> decide
  · -- every other character stands for itself
    refine .inl ⟨hc, ?_⟩
    obtain ⟨h1, h2, h3, h4, h5⟩ := (not_mem_entities_fst c).1 hc
    simp only [escapeChar, h1, h2, h3, h4, h5, if_false]

/-- Each entity starts with its ampersand and holds no other, and none holds a character that
markup or a quoted attribute would read. -/
theorem entity_shape :
    ∀ e ∈ entities, e.2 = '&' :: e.2.tail ∧ '&' ∉ e.2.tail ∧
      '<' ∉ e.2 ∧ '>' ∉ e.2 ∧ '"' ∉ e.2 ∧ '\'' ∉ e.2 := by
  decide

/-! ## The chain of replacements is one pass -/

theorem replaceChar_append (c : Char) (r a b : String) :
    replaceChar c r (a ++ b) = replaceChar c r a ++ replaceChar c r b := by
  apply String.toList_injective
  simp

/-- Escaping a text is escaping its parts. -/
theorem escape_append (a b : String) : escape (a ++ b) = escape a ++ escape b := by
  simp only [escape, replaceChar_append]

/-- The chain takes one character to its escaped form: an entity is not searched again by the
replacements after the one that wrote it. -/
theorem toList_escape_singleton (c : Char) :
    (escape (String.singleton c)).toList = escapeChar c := by
  simp only [escape, toList_replaceChar, String.toList_singleton]
  rcases escapeChar_cases c with ⟨hc, he⟩ | ⟨e, he, rfl, hce⟩
  · -- no replacement finds the character
    obtain ⟨h1, h2, h3, h4, h5⟩ := (not_mem_entities_fst c).1 hc
    simp only [he, List.flatMap_singleton, h1, h2, h3, h4, h5, if_false]
  · -- each entity, written by its replacement, passes the later ones untouched
    rw [hce]
    revert e
    decide

/-- The five replacements in a row escape each character once. -/
theorem toList_escape (s : String) : (escape s).toList = escapeChars s.toList := by
  obtain ⟨cs, rfl⟩ : ∃ cs, s = String.ofList cs := ⟨s.toList, by simp⟩
  -- the text is built a character at a time, and the chain works on each part alone
  induction cs with
  | nil => simp only [escape, toList_replaceChar, String.toList_ofList, List.flatMap_nil, escapeChars_nil]
  | cons c cs ih =>
    rw [String.ofList_cons, escape_append, String.toList_append, toList_escape_singleton, ih]
    simp only [String.toList_append, String.toList_singleton, String.toList_ofList,
      List.singleton_append, escapeChars_cons]

/-- Text that already looks escaped is escaped again, once. -/
example : escape "<a title='&lt;'>" = "&lt;a title=&#x27;&amp;lt;&#x27;&gt;" := by decide

/-! ## What an escaped text looks like -/

theorem not_mem_escapeChar {x : Char} (hx : x ∈ ['<', '>', '"', '\'']) (c : Char) :
    x ∉ escapeChar c := by
  rcases escapeChar_cases c with ⟨hc, he⟩ | ⟨e, he, -, hce⟩
  · -- a character written as itself is none of the five
    rw [he, List.mem_singleton]
    rintro rfl
    simp only [List.mem_cons, List.not_mem_nil, or_false] at hx
    obtain ⟨-, h2, h3, h4, h5⟩ := (not_mem_entities_fst _).1 hc
    rcases hx with rfl | rfl | rfl | rfl <;> contradiction
  · -- no entity holds one of the four
    obtain ⟨-, -, hlt, hgt, hquot, hapos⟩ := entity_shape e he
    rw [hce]
    simp only [List.mem_cons, List.not_mem_nil, or_false] at hx
    rcases hx with rfl | rfl | rfl | rfl <;> assumption

/-- Escaped text holds no angle bracket and no quote. -/
theorem not_mem_escapeChars {x : Char} (hx : x ∈ ['<', '>', '"', '\'']) (cs : List Char) :
    x ∉ escapeChars cs := by
  simp only [escapeChars, List.mem_flatMap, not_exists, not_and]
  exact fun c _ => not_mem_escapeChar hx c

/-- What follows a text without `x` holds every suffix starting with `x`. -/
theorem suffix_of_suffix_append {x : Char} {post a b : List Char} (ha : x ∉ a)
    (h : x :: post <:+ a ++ b) : x :: post <:+ b := by
  induction a with
  | nil => exact h
  | cons y a ih =>
    rcases List.suffix_cons_iff.1 h with heq | h'
    · exact absurd (List.cons_eq_cons.1 heq).1 (fun hy => ha (hy ▸ List.mem_cons_self ..))
    · exact ih (fun hx => ha (List.mem_cons_of_mem y hx)) h'

/-- Every ampersand in an escaped text starts an entity. -/
theorem amp_starts_entity (cs : List Char) :
    ∀ post, '&' :: post <:+ escapeChars cs → ∃ e ∈ entities, e.2 <+: '&' :: post := by
  induction cs with
  | nil =>
    intro post h
    simp at h
  | cons c cs ih =>
    intro post h
    rw [escapeChars_cons] at h
    rcases escapeChar_cases c with ⟨hc, he⟩ | ⟨e, he, -, hce⟩
    · -- the character itself is no ampersand, so the suffix lies further on
      have hamp : '&' ∉ escapeChar c := by
        rw [he, List.mem_singleton]
        rintro rfl
        exact ((not_mem_entities_fst _).1 hc).1 rfl
      exact ih post (suffix_of_suffix_append hamp h)
    · -- the suffix is the entity and all after it, or lies past the entity's ampersand
      obtain ⟨hhead, htail, -⟩ := entity_shape e he
      rw [hce, hhead, List.cons_append] at h
      rcases List.suffix_cons_iff.1 h with heq | h'
      · refine ⟨e, he, ?_⟩
        rw [hhead, (List.cons_eq_cons.1 heq).2]
        exact List.prefix_append _ _
      · exact ih post (suffix_of_suffix_append htail h')

/-! ## Reading the entities back -/

/-- Read the five entities back, from left to right; any other character stands for itself. -/
def unescape : List Char → List Char
  | '&' :: 'a' :: 'm' :: 'p' :: ';' :: rest => '&' :: unescape rest
  | '&' :: 'l' :: 't' :: ';' :: rest => '<' :: unescape rest
  | '&' :: 'g' :: 't' :: ';' :: rest => '>' :: unescape rest
  | '&' :: 'q' :: 'u' :: 'o' :: 't' :: ';' :: rest => '"' :: unescape rest
  | '&' :: '#' :: 'x' :: '2' :: '7' :: ';' :: rest => '\'' :: unescape rest
  | c :: rest => c :: unescape rest
  | [] => []

/-- A character other than the ampersand is read as itself. -/
theorem unescape_cons_of_ne {c : Char} (hc : c ≠ '&') (rest : List Char) :
    unescape (c :: rest) = c :: unescape rest := by
  rw [unescape.eq_def]
  split <;> simp_all

theorem unescape_escapeChar_append (c : Char) (rest : List Char) :
    unescape (escapeChar c ++ rest) = c :: unescape rest := by
  rcases escapeChar_cases c with ⟨hc, he⟩ | ⟨e, he, rfl, hce⟩
  · have hamp : c ≠ '&' := ((not_mem_entities_fst c).1 hc).1
    rw [he, List.singleton_append, unescape_cons_of_ne hamp]
  · rw [hce]
    simp only [entities, List.mem_cons, List.not_mem_nil, or_false] at he
    rcases he with rfl | rfl | rfl | rfl | rfl <;> rfl

/-- Reading back an escaped text gives the text. -/
theorem unescape_escapeChars (cs : List Char) : unescape (escapeChars cs) = cs := by
  induction cs with
  | nil => rfl
  | cons c cs ih => rw [escapeChars_cons, unescape_escapeChar_append, ih]

/-- The five replacements in a row escape each character of the text once: the result holds no
angle bracket and no quote, each ampersand in it starts an entity, and reading the entities back
gives the text, so no two texts escape alike. -/
theorem escape_chain_correct (s : String) :
    escape s = String.ofList (escapeChars s.toList) ∧
    (∀ x ∈ ['<', '>', '"', '\''], x ∉ (escape s).toList) ∧
    (∀ post, '&' :: post <:+ (escape s).toList → ∃ e ∈ entities, e.2 <+: '&' :: post) ∧
    unescape (escape s).toList = s.toList ∧
    ∀ t, escape t = escape s → t = s := by
  refine ⟨?_, fun x hx => ?_, ?_, ?_, fun t ht => ?_⟩
  · rw [← toList_escape, String.ofList_toList]
  · rw [toList_escape]
    exact not_mem_escapeChars hx _
  · rw [toList_escape]
    exact amp_starts_entity _
  · rw [toList_escape, unescape_escapeChars]
  · -- reading back tells the two texts apart
    have hread := congrArg (fun u => unescape u.toList) ht
    simp only [toList_escape, unescape_escapeChars] at hread
    exact String.toList_injective hread

end FirmwareRedirect.Text.Html
