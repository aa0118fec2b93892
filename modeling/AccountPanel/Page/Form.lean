import AccountPanel.Http.Submission
import AccountPanel.Markup.Piece

/-!
# The forms of a page

Forms found in a page that is read back, with the values their fields hold, and the requests that
submit them.
-/

namespace AccountPanel.Page

open Markup

/-- A form: where it is sent, and its fields with the values they hold. -/
structure Form where
  action : String
  fields : List Urlencoded.Field
  deriving Repr, DecidableEq

namespace Form

/-- The value of an attribute, empty if there is none. -/
def attributeValue (attributes : List (String × String)) (name : String) : String :=
  (attributes.lookup name).getD ""

/-- The fields among pieces: inputs hold their value attribute, text areas their text. -/
def fieldsAmong : List Piece → List Urlencoded.Field
  | [] => []
  | .opening tag attributes :: pieces =>
    if tag = "input" then
      (attributeValue attributes "name", attributeValue attributes "value") :: fieldsAmong pieces
    else if tag = "textarea" then
      (attributeValue attributes "name",
        Piece.text (pieces.takeWhile (· != .closing "textarea"))) :: fieldsAmong pieces
    else fieldsAmong pieces
  | _ :: pieces => fieldsAmong pieces

/-- The forms among pieces. -/
def among (pieces : List Piece) : List Form :=
  (Piece.elements "form" pieces).map fun (attributes, content) =>
    ⟨attributeValue attributes "action", fieldsAmong content⟩

/-- The request that submits a form as it stands. -/
def submission (form : Form) : Http.Request where
  method := "POST"
  target := form.action
  contentType := some Http.formContentType
  body := Text.Utf8.encode (Urlencoded.encode form.fields).toList

end Form

end AccountPanel.Page
