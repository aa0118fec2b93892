import AccountPanel.Http.Record
import AccountPanel.Text.Utf8

/-!
# Answers and responses

An answer is what a request comes to; a response is its status, headers and body. A response to a
request for the head alone keeps the headers, the length included, and leaves the body out.
-/

namespace AccountPanel.Http

/-- Why a request is refused before anything is looked up. -/
inductive Rejection where
  | contentType
  | bodyTooLarge
  | body (cause : RecordError)
  | query (cause : RecordError)
  deriving Repr, DecidableEq

namespace Rejection

/-- The status of a refusal. -/
def status : Rejection → Nat
  | .contentType => 415
  | .bodyTooLarge => 413
  | .body _ => 422
  | .query _ => 400

/-- The words of a refusal. -/
def message : Rejection → String
  | .contentType =>
    "Form requests must have \x60Content-Type: application/x-www-form-urlencoded\x60"
  | .bodyTooLarge => "Failed to buffer the request body: length limit exceeded"
  | .body cause => "Failed to deserialize form body: " ++ cause.message
  | .query cause => "Failed to deserialize query string: " ++ cause.message

end Rejection

/-- What a request comes to. -/
inductive Answer where
  /-- A page that was asked for. -/
  | page (html : String)
  /-- A page that shows a refused form again. -/
  | refusedForm (html : String)
  /-- Look at another address instead. -/
  | seeOther (location : String)
  | stylesheet (css : String)
  | rejected (cause : Rejection)
  | notFound
  /-- The path is served for these methods alone. -/
  | methodNotAllowed (allowed : String) (headers : List (String × String))
  deriving Repr, DecidableEq

/-- A response. The headers are in no particular order. -/
structure Response where
  status : Nat
  headers : List (String × String)
  body : String
  deriving Repr, DecidableEq

/-- The number of octets of a body, as a header. -/
def contentLength (body : String) : String × String :=
  ("content-length", toString (Text.Utf8.encode body.toList).length)

/-- How long clients may keep the stylesheet, and the news that a path is not served. -/
def caching : String × String := ("cache-control", "public, max-age=3600")

namespace Answer

/-- The response that carries an answer, with its body. -/
def response : Answer → Response
  | .page html => ⟨200, [("content-type", "text/html; charset=utf-8"), contentLength html], html⟩
  | .refusedForm html =>
    ⟨422, [("content-type", "text/html; charset=utf-8"), contentLength html], html⟩
  | .seeOther location => ⟨303, [("location", location), contentLength ""], ""⟩
  | .stylesheet css => ⟨200, [("content-type", "text/css"), caching, contentLength css], css⟩
  | .rejected cause =>
    ⟨cause.status, [("content-type", "text/plain; charset=utf-8"), contentLength cause.message],
      cause.message⟩
  | .notFound => ⟨404, [caching, contentLength ""], ""⟩
  | .methodNotAllowed allowed headers =>
    ⟨405, ("allow", allowed) :: contentLength "" :: headers, ""⟩

end Answer

/-- Leave the body out. -/
def Response.headOnly (response : Response) : Response := { response with body := "" }

end AccountPanel.Http
