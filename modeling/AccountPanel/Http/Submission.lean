import AccountPanel.Http.Request
import AccountPanel.Http.Response

/-!
# Submitted forms

The fields of a form in the body of a request. A body is read only if the request says that it
holds a form and if it is not too large; the first of these that fails refuses the request.
-/

namespace AccountPanel.Http

/-- The number of octets that a body may have. -/
def bodyLimit : Nat := 2097152

/-- The content type of a form. -/
def formContentType : String := "application/x-www-form-urlencoded"

/-- Can a header value be read as text? -/
def isReadableHeader (value : String) : Bool :=
  value.toList.all fun character =>
    character == '\t' || (0x20 ≤ character.toNat && character.toNat < 0x7F)

/-- Does the request say that its body holds a form? -/
def Request.hasForm (request : Request) : Bool :=
  match request.contentType with
  | none => false
  | some value => isReadableHeader value && formContentType.toList.isPrefixOf value.toList

/-- The fields of the submitted form. -/
def Request.formFields (request : Request) : Except Rejection (List Urlencoded.Field) :=
  if !request.hasForm then .error .contentType
  else if bodyLimit < request.body.length then .error .bodyTooLarge
  else .ok (Urlencoded.decode request.body)

/-- The draft that a request submits. -/
def Request.draft (request : Request) : Except Rejection Draft := do
  let fields ← request.formFields
  (readDraft fields).mapError .body

/-- The key that a request submits. -/
def Request.key (request : Request) : Except Rejection Key := do
  let fields ← request.formFields
  (readKey fields).mapError .body

end AccountPanel.Http
