/-!
# Redirect templates

A redirect template is the URL a device is sent to, with the placeholder `%s` standing for the
firmware model. A template must hold the placeholder. Rendering replaces its first occurrence
only: later placeholders stay, and the model's own text is not searched again.
-/

namespace FirmwareRedirect

/-- Why a text is not a redirect template. -/
inductive TemplateError where
  /-- The template is empty. -/
  | empty
  /-- The template holds no `%s`. -/
  | noPlaceholder
  deriving DecidableEq, Repr

/-- The text of a template error. -/
def TemplateError.message : TemplateError → String
  | .empty => "Specify --dest-url-template to use in redirects"
  | .noPlaceholder => "--dest-url-template does not contain %s, this can't be right"

/-- Whether `%s` occurs in a list of characters. -/
def hasPlaceholder : List Char → Bool
  | '%' :: 's' :: _ => true
  | _ :: rest => hasPlaceholder rest
  | [] => false

/-- Replace the first `%s` in `cs` by `model`. -/
def fillFirst (model : List Char) : List Char → List Char
  | '%' :: 's' :: rest => model ++ rest
  | c :: rest => c :: fillFirst model rest
  | [] => []

/-- A URL template that holds the placeholder `%s`. -/
structure RedirectTemplate where
  /-- The template text. -/
  text : String
  /-- The placeholder occurs in the text. -/
  has_placeholder : hasPlaceholder text.toList = true

namespace RedirectTemplate

/-- Check a text and make it a template. -/
def parse (text : String) : Except TemplateError RedirectTemplate :=
  if text.isEmpty then .error .empty
  else if h : hasPlaceholder text.toList = true then .ok ⟨text, h⟩
  else .error .noPlaceholder

/-- The URL for a model: the template with its first `%s` replaced by the model. -/
def render (t : RedirectTemplate) (model : String) : String :=
  String.ofList (fillFirst model.toList t.text.toList)

end RedirectTemplate

end FirmwareRedirect
