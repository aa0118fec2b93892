import AccountPanel.Page.Form
import AccountPanel.Proofs.Draft
import AccountPanel.Proofs.Urlencoded
import AccountPanel.Site

/-!
# The requests that a page leads to

A page leads on in two ways: a form on it is submitted, or a redirection is followed. A submitted
form is read as the fields it holds, in whichever of its written forms it was sent, and the two
addresses of the tab of the keys are read as the tab and the notice they were built from.
-/

namespace AccountPanel

namespace Http

/-- The request for the page at an address. -/
def Request.get (target : String) : Request := ⟨"GET", target, none, []⟩

/-- Is the request the submission of this form, in any of its written forms? -/
structure Request.Submits (request : Request) (form : Page.Form) : Prop where
  method : request.method = "POST"
  target : request.target = form.action
  hasForm : request.hasForm = true
  body : Urlencoded.Written form.fields request.body

/-- Is the request one to add a key, with this draft in its body? -/
structure Request.SubmitsDraft (request : Request) (draft : Draft) : Prop where
  method : request.method = "POST"
  path : request.path = "/account/ssh-keys"
  draft : request.draft = .ok draft

/-- Is the request one to delete a key, with this key in its body? -/
structure Request.SubmitsKey (request : Request) (key : Key) : Prop where
  method : request.method = "POST"
  path : request.path = "/account/ssh-keys/delete"
  key : request.key = .ok key

namespace Request

variable {request : Request} {form : Page.Form} {draft : Draft} {key : Key}

theorem SubmitsDraft.draft_eq {other : Draft} (submits : request.SubmitsDraft draft)
    (again : request.SubmitsDraft other) : draft = other :=
  Except.ok.inj (submits.draft.symm.trans again.draft)

theorem SubmitsKey.key_eq {other : Key} (submits : request.SubmitsKey key)
    (again : request.SubmitsKey other) : key = other :=
  Except.ok.inj (submits.key.symm.trans again.key)

/-- The two kinds of submissions go to different addresses. -/
theorem SubmitsDraft.not_submitsKey (submits : request.SubmitsDraft draft) :
    ¬ request.SubmitsKey key := by
  intro other
  have same := submits.path.symm.trans other.path
  revert same
  decide

/-! ## Submitted forms -/

theorem hasForm_of_contentType (said : request.contentType = some formContentType) :
    request.hasForm = true := by
  rw [hasForm, said]
  decide

theorem submits_submission (form : Page.Form) : form.submission.Submits form where
  method := rfl
  target := rfl
  hasForm := hasForm_of_contentType rfl
  body := Urlencoded.written_encode form.fields

/-- A form that fits is read. -/
theorem formFields_of_hasForm (hasForm : request.hasForm = true)
    (fits : request.body.length ≤ bodyLimit) :
    request.formFields = .ok (Urlencoded.decode request.body) := by
  rw [formFields, if_neg (by simp [hasForm]), if_neg (Nat.not_lt.mpr fits)]

theorem Submits.formFields_eq (submits : request.Submits form)
    (fits : request.body.length ≤ bodyLimit) : request.formFields = .ok form.fields := by
  rw [formFields_of_hasForm submits.hasForm fits, Urlencoded.decode_of_written submits.body]

theorem path_of_target {target : String} (same : request.target = target) :
    request.path = (Request.get target).path := by
  rw [path, path, location, location, same]
  rfl

/-- A submitted form with a name and a key asks to delete that key. -/
theorem Submits.submitsKey (submits : request.Submits form)
    (fits : request.body.length ≤ bodyLimit) (action : form.action = "/account/ssh-keys/delete")
    (fields : form.fields = [("name", key.name), ("key", key.text)]) :
    request.SubmitsKey key where
  method := submits.method
  path := by
    rw [path_of_target submits.target, action]
    decide
  key := by
    rw [Request.key, submits.formFields_eq fits, fields]
    rfl

/-- A submitted form with a name and a key asks to add what was typed. -/
theorem Submits.submitsDraft (submits : request.Submits form)
    (fits : request.body.length ≤ bodyLimit) (action : form.action = "/account/ssh-keys")
    (fields : form.fields = [("name", draft.name), ("key", draft.text)]) :
    request.SubmitsDraft draft where
  method := submits.method
  path := by
    rw [path_of_target submits.target, action]
    decide
  draft := by
    rw [Request.draft, submits.formFields_eq fits, fields]
    rfl

end Request

end Http

/-! ## The addresses of the tab of the keys -/

open Http

theorem accountUrl_keys : accountUrl .keys none = "/account?tab=ssh-keys" := by decide

theorem accountUrl_deleteFailed :
    accountUrl .keys (some deleteFailed) = "/account?tab=ssh-keys&notice=delete-failed" := by
  decide

/-- The fields of a query that was written from fields are these fields. -/
theorem Http.Request.queryFields_of_query {request : Request} {fields : List Urlencoded.Field}
    (written : request.query = (Urlencoded.encode fields).toList) :
    request.queryFields = fields := by
  rw [queryFields, written, Urlencoded.decode_of_written (Urlencoded.written_encode fields)]

theorem readPageQuery_keys :
    readPageQuery (Request.get "/account?tab=ssh-keys").queryFields =
      .ok ⟨some "ssh-keys", none, none⟩ := by
  have written : (Request.get "/account?tab=ssh-keys").query =
      (Urlencoded.encode [("tab", "ssh-keys")]).toList := by decide
  rw [Request.queryFields_of_query written]
  rfl

theorem readPageQuery_deleteFailed :
    readPageQuery (Request.get "/account?tab=ssh-keys&notice=delete-failed").queryFields =
      .ok ⟨some "ssh-keys", none, some deleteFailed⟩ := by
  have written : (Request.get "/account?tab=ssh-keys&notice=delete-failed").query =
      (Urlencoded.encode [("tab", "ssh-keys"), ("notice", deleteFailed)]).toList := by decide
  rw [Request.queryFields_of_query written]
  rfl

end AccountPanel
