import FirmwareRedirect.History.Page
import FirmwareRedirect.Proofs.HtmlEscape
/-!
# The markup of the history page

The history page is fixed markup around four kinds of text: the client, each entry as shown, and
the time. The client and the entries may hold anything a client sent, so they go through the
HTML escape, which leaves no angle bracket in them; the time is a stamp of month names, digits,
blanks and colons. Every `<` and `>` of the page is therefore one of the fixed markup, and so is
every `<li>`: their numbers depend only on how many entries there are.

Main statement: `historyPage_markup`.
-/

namespace FirmwareRedirect

open Text.Html

/-! ## Stamps hold no markup -/

section Stamp

variable {x : Char}

theorem angle_cases (hx : x ∈ ['<', '>']) : x = '<' ∨ x = '>' := by
  simpa using hx

/-- A number in two places is its padding and its decimal digits. -/
theorem not_mem_twoPlaces {pad : Char} (hdigit : x.isDigit = false) (hpad : x ≠ pad) (n : Nat) :
    x ∉ (twoPlaces pad n).toList := by
  have hnum : x ∉ (toString n).toList := by
    rw [Nat.toString_eq_repr, Nat.toList_repr]
    intro hmem
    have := Nat.isDigit_of_mem_toDigits (by decide) (by decide) hmem
    simp [hdigit] at this
  unfold twoPlaces
  split
  · simp only [String.toList_append, String.toList_singleton, List.singleton_append,
      List.mem_cons, not_or]
    exact ⟨hpad, hnum⟩
  · exact hnum

/-- A month's name holds no angle bracket. -/
theorem not_mem_monthName (hx : x ∈ ['<', '>']) (m : Nat) : x ∉ (monthName m).toList := by
  unfold monthName
  cases hname : ["Jan", "Feb", "Mar", "Apr", "May", "Jun", "Jul", "Aug", "Sep", "Oct", "Nov",
      "Dec"][m - 1]? with
  | none => simp
  | some name =>
    have hmem := List.mem_of_getElem? hname
    clear hname
    simp only [Option.getD_some]
    -- twelve names, checked one by one
    revert name
    rcases angle_cases hx with rfl | rfl <;> decide

/-- A stamp holds no angle bracket. -/
theorem not_mem_stamp (hx : x ∈ ['<', '>']) (t : Instant) : x ∉ t.stamp.toList := by
  have hsep : x.isDigit = false ∧ x ≠ ' ' ∧ x ≠ '0' ∧ x ≠ ':' := by
    rcases angle_cases hx with rfl | rfl <;> decide
  obtain ⟨hdigit, hblank, hzero, hcolon⟩ := hsep
  unfold Instant.stamp
  -- the month's name, then numbers in two places between blanks and colons
  simp [not_mem_monthName hx, not_mem_twoPlaces hdigit hblank, not_mem_twoPlaces hdigit hzero,
    hblank, hcolon]

end Stamp

/-! ## Places where a text starts -/

/-- The number of places at which `pat` starts in `cs`. -/
def occurrences (pat : List Char) : List Char → Nat
  | [] => 0
  | c :: cs => (if pat <+: c :: cs then 1 else 0) + occurrences pat cs

/-- No place in a text without the first character of `pat` starts `pat`. -/
theorem occurrences_append_of_not_mem {x : Char} {pat a : List Char} (ha : x ∉ a)
    (b : List Char) : occurrences (x :: pat) (a ++ b) = occurrences (x :: pat) b := by
  induction a with
  | nil => rfl
  | cons y a ih =>
    have hy : y ≠ x := fun h => ha (h ▸ List.mem_cons_self ..)
    have hne : ¬ (x :: pat) <+: y :: (a ++ b) := fun h => hy (List.cons_prefix_cons.1 h).1.symm
    rw [List.cons_append, occurrences, if_neg hne, ih (fun h => ha (List.mem_cons_of_mem y h)),
      Nat.zero_add]

/-! ## The page -/

section Page

variable {x : Char}

/-- The characters an escaped text cannot hold include the angle brackets. -/
theorem mem_escaped_of_angle (hx : x ∈ ['<', '>']) : x ∈ ['<', '>', '"', '\''] := by
  rcases angle_cases hx with rfl | rfl <;> decide

theorem toList_item (e : LogEntry) :
    e.item.toList = "  <li><pre style='margin: 0'>".toList ++
      (escapeChars e.display.toList ++ "</pre></li>\n".toList) := by
  unfold LogEntry.item
  simp only [String.toList_append, toList_escape, List.append_assoc]

theorem toList_historyPage (client : String) (entries : List LogEntry) (now : Instant) :
    (historyPage client entries now).toList =
      "<h1>History for ".toList ++ (escapeChars client.toList ++ ("</h1>\n".toList ++
        ((if entries = [] then [] else
          "<ul>\n".toList ++ (entries.flatMap (·.item.toList) ++ "</ul>\n".toList)) ++
        ("<hr>\n".toList ++ (now.stamp.toList ++ "\n".toList))))) := by
  unfold historyPage
  by_cases h : entries = [] <;>
    simp only [List.isEmpty_iff, h, if_true, if_false, String.toList_append,
      String.toList_join, List.flatMap_map, toList_escape, List.append_assoc, String.toList_empty,
      List.nil_append]

/-- An item holds two angle brackets of each kind in its markup, and none in the entry. -/
theorem count_item (hx : x ∈ ['<', '>']) (e : LogEntry) : e.item.toList.count x = 4 := by
  have hmarkup : ("  <li><pre style='margin: 0'>".toList).count x +
      ("</pre></li>\n".toList).count x = 4 := by
    rcases angle_cases hx with rfl | rfl <;> decide
  have hentry : (escapeChars e.display.toList).count x = 0 :=
    List.count_eq_zero.2 (not_mem_escapeChars (mem_escaped_of_angle hx) _)
  rw [toList_item, List.count_append, List.count_append, hentry]
  omega

/-- The page holds three angle brackets of each kind outside the list, and the list two and four
per entry. -/
theorem count_historyPage (hx : x ∈ ['<', '>']) (client : String) (entries : List LogEntry)
    (now : Instant) : (historyPage client entries now).toList.count x =
      3 + if 0 < entries.length then 2 + 4 * entries.length else 0 := by
  have hmarkup : ("<h1>History for ".toList).count x = 1 ∧ ("</h1>\n".toList).count x = 1 ∧
      ("<ul>\n".toList).count x = 1 ∧ ("</ul>\n".toList).count x = 1 ∧
      ("<hr>\n".toList).count x = 1 ∧ ("\n".toList).count x = 0 := by
    rcases angle_cases hx with rfl | rfl <;> decide
  have hclient : (escapeChars client.toList).count x = 0 :=
    List.count_eq_zero.2 (not_mem_escapeChars (mem_escaped_of_angle hx) _)
  have hstamp : now.stamp.toList.count x = 0 := List.count_eq_zero.2 (not_mem_stamp hx now)
  have hitems : (entries.flatMap (·.item.toList)).count x = 4 * entries.length := by
    rw [List.count_flatMap, Function.comp_def]
    simp only [count_item hx, List.map_const', List.sum_replicate_nat, Nat.mul_comm]
  rw [toList_historyPage]
  by_cases h : entries = []
  · simp only [h, if_true, List.length_nil, Nat.lt_irrefl, if_false, List.nil_append,
      List.count_append, hmarkup, hclient, hstamp]
  · have hpos : 0 < entries.length := List.length_pos_iff.2 h
    simp only [h, if_false, hpos, if_true, List.count_append, hmarkup, hclient, hstamp, hitems]
    omega

/-- An item starts one `<li>`, at its front. -/
theorem occurrences_item (e : LogEntry) (rest : List Char) :
    occurrences ['<', 'l', 'i', '>'] (e.item.toList ++ rest) =
      1 + occurrences ['<', 'l', 'i', '>'] rest := by
  have hentry : '<' ∉ escapeChars e.display.toList :=
    not_mem_escapeChars (by decide) _
  rw [toList_item, List.append_assoc, List.append_assoc]
  simp [occurrences, occurrences_append_of_not_mem hentry]

/-- A run of items starts one `<li>` per entry. -/
theorem occurrences_items (entries : List LogEntry) (rest : List Char) :
    occurrences ['<', 'l', 'i', '>'] (entries.flatMap (·.item.toList) ++ rest) =
      entries.length + occurrences ['<', 'l', 'i', '>'] rest := by
  induction entries with
  | nil => simp
  | cons e entries ih =>
    rw [List.flatMap_cons, List.append_assoc, occurrences_item, ih, List.length_cons]
    omega

/-- The page starts one `<li>` per entry, all in the items: the client and the stamp start none. -/
theorem occurrences_historyPage (client : String) (entries : List LogEntry) (now : Instant) :
    occurrences ['<', 'l', 'i', '>'] (historyPage client entries now).toList = entries.length := by
  have hclient : '<' ∉ escapeChars client.toList := not_mem_escapeChars (by decide) _
  have hstamp : '<' ∉ now.stamp.toList := not_mem_stamp (by decide) now
  rw [toList_historyPage]
  by_cases h : entries = []
  · subst h
    simp [occurrences, occurrences_append_of_not_mem hclient, occurrences_append_of_not_mem hstamp]
  · simp [h, occurrences, occurrences_append_of_not_mem hclient, occurrences_items,
      occurrences_append_of_not_mem hstamp]

end Page

/-- The history page is a heading with the escaped client, then, when there are entries, a list
with one item per entry holding the escaped entry as shown, then a rule and the time. Whatever the
client, the messages and the instants hold, the page has exactly three angle brackets of each
kind outside the list and two more and four per entry inside it, and one `<li>` per entry: no
text from a client adds or closes markup. -/
theorem historyPage_markup (client : String) (entries : List LogEntry) (now : Instant) :
    historyPage client entries now =
      "<h1>History for " ++ escape client ++ "</h1>\n" ++
        (if 0 < entries.length then
          "<ul>\n" ++ String.join (entries.map fun e =>
            "  <li><pre style='margin: 0'>" ++ escape (e.stamp.stamp ++ " | " ++ e.message) ++
              "</pre></li>\n") ++ "</ul>\n"
        else "") ++
        "<hr>\n" ++ now.stamp ++ "\n" ∧
    (∀ x ∈ ['<', '>'], (historyPage client entries now).toList.count x =
      3 + if 0 < entries.length then 2 + 4 * entries.length else 0) ∧
    occurrences "<li>".toList (historyPage client entries now).toList = entries.length := by
  refine ⟨?_, fun x hx => count_historyPage hx client entries now, ?_⟩
  · unfold historyPage LogEntry.item LogEntry.display
    by_cases h : entries = []
    · simp only [h, List.isEmpty_nil, if_true, List.length_nil, Nat.lt_irrefl, if_false]
    · simp only [List.isEmpty_iff, h, if_false, List.length_pos_iff.2 h, if_true]
  · exact occurrences_historyPage client entries now

end FirmwareRedirect
