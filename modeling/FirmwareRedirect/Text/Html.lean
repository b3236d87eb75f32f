/-!
# HTML text

Text that reaches an HTML page is escaped by five replacements, one after the other: every `&`
by `&amp;`, then every `<` by `&lt;`, `>` by `&gt;`, `"` by `&quot;` and `'` by `&#x27;`. The
ampersand goes first, and no entity holds a character replaced after it, so the chain escapes
each character of the original text once: every other character stays as it is. The escaped text
can therefore neither open nor close markup, nor end a quoted attribute.
-/

namespace FirmwareRedirect.Text.Html

/-- Every occurrence of the character `c` replaced by the text `r`. -/
def replaceChar (c : Char) (r : String) (s : String) : String :=
  String.ofList (s.toList.flatMap fun d => if d = c then r.toList else [d])

/-- The escaped form of a string: the five replacements, the ampersand first. -/
def escape (s : String) : String :=
  replaceChar '\'' "&#x27;" <| replaceChar '"' "&quot;" <| replaceChar '>' "&gt;" <|
    replaceChar '<' "&lt;" <| replaceChar '&' "&amp;" s

/-- The escaped form of one character. -/
def escapeChar (c : Char) : List Char :=
  if c = '&' then "&amp;".toList
  else if c = '<' then "&lt;".toList
  else if c = '>' then "&gt;".toList
  else if c = '"' then "&quot;".toList
  else if c = '\'' then "&#x27;".toList
  else [c]

/-- The escaped form of a list of characters, character by character. -/
def escapeChars (cs : List Char) : List Char := cs.flatMap escapeChar

@[simp] theorem escapeChars_nil : escapeChars [] = [] := rfl

@[simp] theorem escapeChars_cons (c : Char) (cs : List Char) :
    escapeChars (c :: cs) = escapeChar c ++ escapeChars cs := by
  simp [escapeChars]

@[simp] theorem escapeChars_append (a b : List Char) :
    escapeChars (a ++ b) = escapeChars a ++ escapeChars b := by
  simp [escapeChars]

@[simp] theorem toList_replaceChar (c : Char) (r s : String) :
    (replaceChar c r s).toList = s.toList.flatMap fun d => if d = c then r.toList else [d] := by
  simp [replaceChar]

end FirmwareRedirect.Text.Html
