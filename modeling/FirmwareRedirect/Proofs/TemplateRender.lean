import FirmwareRedirect.Config.Template
/-!
# Filling a redirect template

A text is a redirect template exactly when it holds the placeholder `%s`; the check for an empty
text only picks the message of the refusal. Rendering puts the model in place of the leftmost
placeholder: the text before it and after it stay as they are, later placeholders included, and
the model is not searched again. So a rendered URL is two characters (and two bytes) shorter than
the template and the model together, and two models never share a URL.

Main statement: `template_parse_render`.
-/

namespace FirmwareRedirect

/-! ## Finding the placeholder -/

/-- The placeholder does not start where the first two characters are not `%s`. -/
theorem placeholder_not_at_front {c : Char} {rest : List Char}
    (hne : ∀ tail, c = '%' → rest = 's' :: tail → False) : ¬ ['%', 's'] <+: c :: rest := by
  rintro ⟨tail, htail⟩
  simp only [List.cons_append, List.nil_append, List.cons.injEq] at htail
  exact hne tail htail.1.symm htail.2.symm

/-- In front of a placeholder, `c :: pre` starts one exactly when it does with all that follows. -/
theorem placeholder_front_cons_append (c : Char) (pre post : List Char) :
    ['%', 's'] <+: c :: (pre ++ '%' :: 's' :: post) ↔ ['%', 's'] <+: c :: pre := by
  cases pre <;> simp

/-- A text holds the placeholder when `%s` stands somewhere in it. -/
theorem hasPlaceholder_iff (cs : List Char) : hasPlaceholder cs = true ↔ ['%', 's'] <:+: cs := by
  fun_induction hasPlaceholder cs with
  | case1 rest => simp [List.infix_cons_iff]
  | case2 c rest hne ih =>
    rw [ih, List.infix_cons_iff]
    simp [placeholder_not_at_front hne]
  | case3 => simp

/-- A text that holds the placeholder splits at its leftmost one. -/
theorem exists_leftmost_placeholder {cs : List Char} (h : ['%', 's'] <:+: cs) :
    ∃ pre post, cs = pre ++ '%' :: 's' :: post ∧ ¬ ['%', 's'] <:+: pre := by
  fun_induction hasPlaceholder cs with
  | case1 rest => exact ⟨[], rest, rfl, by simp⟩
  | case2 c rest hne ih =>
    have hrest : ['%', 's'] <:+: rest :=
      (List.infix_cons_iff.1 h).resolve_left (placeholder_not_at_front hne)
    obtain ⟨pre, post, rfl, hpre⟩ := ih hrest
    refine ⟨c :: pre, post, rfl, ?_⟩
    rw [List.infix_cons_iff]
    rintro (hp | hp)
    · -- a placeholder at the front of `c :: pre` would start the text itself
      exact placeholder_not_at_front hne ((placeholder_front_cons_append c pre post).2 hp)
    · exact hpre hp
  | case3 => simp at h

/-- Filling puts the model in place of the leftmost placeholder. -/
theorem fillFirst_leftmost (m pre post : List Char) (hpre : ¬ ['%', 's'] <:+: pre) :
    fillFirst m (pre ++ '%' :: 's' :: post) = pre ++ m ++ post := by
  induction pre with
  | nil => simp [fillFirst]
  | cons c pre ih =>
    rw [List.infix_cons_iff, not_or] at hpre
    -- the text does not start with the placeholder: the next one comes after `pre`
    have hne : ∀ tail, c = '%' → pre ++ '%' :: 's' :: post = 's' :: tail → False := by
      intro tail hc htail
      refine hpre.1 ((placeholder_front_cons_append c pre post).1 ⟨tail, ?_⟩)
      rw [hc, htail]
      rfl
    rw [List.cons_append, fillFirst.eq_2 m c _ hne, ih hpre.2, List.cons_append, List.cons_append]

namespace RedirectTemplate

/-! ## Checking a template -/

/-- Checking a text: it is a template when it holds the placeholder, and a refusal names the
empty text when there is no text at all. -/
theorem parse_eq (t : String) :
    parse t = if h : hasPlaceholder t.toList = true then .ok ⟨t, h⟩
      else .error (if t = "" then .empty else .noPlaceholder) := by
  unfold parse
  by_cases he : t.isEmpty = true
  · -- the empty text holds no placeholder
    obtain rfl : t = "" := String.isEmpty_iff.1 he
    rfl
  · have ht : t ≠ "" := mt String.isEmpty_iff.2 he
    simp [he, ht]

/-- A text is a template exactly when it holds the placeholder. -/
theorem exists_parse_eq_ok_iff (t : String) :
    (∃ r, parse t = .ok r) ↔ ['%', 's'] <:+: t.toList := by
  rw [parse_eq, ← hasPlaceholder_iff]
  split <;> simp_all

theorem text_of_parse_eq_ok {t : String} {r : RedirectTemplate} (h : parse t = .ok r) :
    r.text = t := by
  rw [parse_eq] at h
  split at h
  · cases h
    rfl
  · cases h

theorem error_of_parse_eq_error {t : String} {e : TemplateError} (h : parse t = .error e) :
    e = if t = "" then .empty else .noPlaceholder := by
  rw [parse_eq] at h
  split at h
  · cases h
  · cases h
    rfl

/-! ## Rendering -/

/-- A template splits at its leftmost placeholder, and rendering puts the model in its place. -/
theorem exists_split (r : RedirectTemplate) :
    ∃ pre post : String, r.text = pre ++ "%s" ++ post ∧ ¬ ['%', 's'] <:+: pre.toList ∧
      ∀ m, r.render m = pre ++ m ++ post := by
  obtain ⟨pre, post, hcs, hpre⟩ :=
    exists_leftmost_placeholder ((hasPlaceholder_iff _).1 r.has_placeholder)
  refine ⟨String.ofList pre, String.ofList post, ?_, by simpa using hpre, fun m => ?_⟩
  · apply String.toList_injective
    simp [hcs]
  · apply String.toList_injective
    simp [render, hcs, fillFirst_leftmost _ _ _ hpre]

/-- The leftmost `%s` of `a%%s%s` is the one after the first `%`; the model's own `%s` stays. -/
example : (⟨"a%%s%s", by decide⟩ : RedirectTemplate).render "%sM" = "a%%sM%s" := by decide

/-- A rendered URL has the template's characters, less the placeholder, and the model's. -/
theorem length_render (r : RedirectTemplate) (m : String) :
    (r.render m).length = r.text.length - 2 + m.length := by
  obtain ⟨pre, post, ht, -, hr⟩ := r.exists_split
  rw [hr, ht]
  simp only [String.length_append]
  have h2 : "%s".length = 2 := by decide
  omega

/-- A rendered URL has the template's bytes, less the placeholder's two, and the model's. -/
theorem utf8ByteSize_render (r : RedirectTemplate) (m : String) :
    (r.render m).utf8ByteSize = r.text.utf8ByteSize - 2 + m.utf8ByteSize := by
  obtain ⟨pre, post, ht, -, hr⟩ := r.exists_split
  rw [hr, ht]
  simp only [String.utf8ByteSize_append]
  have h2 : "%s".utf8ByteSize = 2 := by decide
  omega

/-- Two models never render to the same URL. -/
theorem render_injective (r : RedirectTemplate) : Function.Injective r.render := by
  intro m₁ m₂ h
  obtain ⟨pre, post, -, -, hr⟩ := r.exists_split
  rw [hr, hr] at h
  have hl := congrArg String.toList h
  simp only [String.toList_append, List.append_cancel_left_eq, List.append_cancel_right_eq] at hl
  exact String.toList_injective hl

end RedirectTemplate

/-- A text is a redirect template exactly when it holds `%s`, and a refusal names the empty text
only for the empty text. An accepted template keeps its text and renders a model by putting it
in place of the leftmost `%s`, leaving the rest, later placeholders included, as it is; the URL
is two characters and two bytes shorter than template and model together, and no two models
share one. -/
theorem template_parse_render (t : String) :
    ((∃ r, RedirectTemplate.parse t = .ok r) ↔ ['%', 's'] <:+: t.toList) ∧
    (∀ e, RedirectTemplate.parse t = .error e → e = if t = "" then .empty else .noPlaceholder) ∧
    ∀ r, RedirectTemplate.parse t = .ok r →
      r.text = t ∧
      (∃ pre post : String, t = pre ++ "%s" ++ post ∧ ¬ ['%', 's'] <:+: pre.toList ∧
        ∀ m, r.render m = pre ++ m ++ post) ∧
      (∀ m, (r.render m).length = t.length - 2 + m.length ∧
        (r.render m).utf8ByteSize = t.utf8ByteSize - 2 + m.utf8ByteSize) ∧
      Function.Injective r.render := by
  refine ⟨RedirectTemplate.exists_parse_eq_ok_iff t,
    fun e h => RedirectTemplate.error_of_parse_eq_error h, fun r h => ?_⟩
  obtain rfl := RedirectTemplate.text_of_parse_eq_ok h
  exact ⟨rfl, r.exists_split, fun m => ⟨r.length_render m, r.utf8ByteSize_render m⟩,
    r.render_injective⟩

end FirmwareRedirect
