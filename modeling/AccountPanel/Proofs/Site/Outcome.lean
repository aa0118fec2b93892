import AccountPanel.Proofs.Site.Calls
import AccountPanel.Proofs.Store

/-!
# What a response tells without its page

The status of a response and the address it leads to. Both follow from the change that the request
asks for and from the backend's answer to that; the keys that the backend lists have no part in
them.
-/

namespace AccountPanel

open Http

/-- The status of a response, and the address it leads to. -/
def Http.Response.outcome (response : Response) : Nat × Option String :=
  (response.status, response.headers.lookup "location")

theorem Http.outcome_refusedForm (html : String) :
    (Answer.refusedForm html).response.outcome = (422, none) := rfl

theorem Http.outcome_page (html : String) :
    (Answer.page html).response.outcome = (200, none) := rfl

/-- What the response to a change tells, by the answer to the change. -/
def Store.Entry.outcome (entry : Store.Entry) : Nat × Option String :=
  match entry.change, entry.accepted with
  | _, true => (303, some "/account?tab=ssh-keys")
  | .add _, false => (422, none)
  | .delete _, false => (303, some "/account?tab=ssh-keys&notice=delete-failed")

namespace Site

variable {σ : Type} (site : Site) (backend : Backend σ) (state : σ)
variable {request : Request}

theorem outcome_addAnswer (listed : Option (List Key)) (key : Key) (accepted : Bool) :
    (site.addAnswer listed key accepted).response.outcome =
      Store.Entry.outcome ⟨.add key, accepted⟩ := by
  cases accepted <;> rfl

theorem outcome_deleteAnswer (key : Key) (accepted : Bool) :
    (deleteAnswer accepted).response.outcome = Store.Entry.outcome ⟨.delete key, accepted⟩ := by
  cases accepted <;> rfl

/-- To leave the body out changes nothing of what a response tells without it. -/
theorem outcome_respond :
    (site.respond backend request state).1.outcome =
      (site.answer backend request state).1.response.outcome := by
  rw [respond_eq]
  split <;> rfl

variable (quiet : ∀ state, (backend.list state).2 = state)

include quiet

/-- A request that asks for a change has it made, and its response tells the answer to it. -/
theorem respond_of_asksFor {change : Store.Change} (asks : request.AsksFor [change]) :
    (site.respond backend request state).1.outcome =
        Store.Entry.outcome ⟨change, (backend.change change state).1⟩ ∧
      (site.respond backend request state).2 = (backend.change change state).2 := by
  cases asks with
  | add submits filled =>
      rw [site.respond_of_filled backend state submits filled, quiet]
      exact ⟨site.outcome_addAnswer _ _ _, rfl⟩
  | delete submits =>
      rw [site.respond_of_submitsKey backend state submits]
      exact ⟨outcome_deleteAnswer _ _, rfl⟩

/-- A request that asks for no change makes none. -/
theorem respond_of_asksForNothing (asks : request.AsksFor []) :
    (site.respond backend request state).2 = state := by
  cases asks with
  | nothing noDraft noKey =>
      by_cases draftSubmitted : ∃ draft, request.SubmitsDraft draft
      · rcases draftSubmitted with ⟨draft, submits⟩
        rw [site.respond_of_unfilled backend state submits (noDraft draft submits)]
        exact quiet state
      · have none : ∀ draft, ¬ request.SubmitsDraft draft := fun draft submits =>
          draftSubmitted ⟨draft, submits⟩
        rcases (site.respond_of_submitsNothing backend state none noKey).1 with same | listed
        · exact same
        · rw [listed, quiet]

omit quiet

/-- The response to a request that asks for no change tells the same over every backend. -/
theorem outcome_respond_eq {τ : Type} (other : Backend τ) (otherState : τ)
    (asks : request.AsksFor []) :
    (site.respond backend request state).1.outcome =
      (site.respond other request otherState).1.outcome := by
  cases asks with
  | nothing noDraft noKey =>
      by_cases draftSubmitted : ∃ draft, request.SubmitsDraft draft
      · rcases draftSubmitted with ⟨draft, submits⟩
        have unfilled := noDraft draft submits
        rw [site.respond_of_unfilled backend state submits unfilled,
          site.respond_of_unfilled other otherState submits unfilled, outcome_refusedForm,
          outcome_refusedForm]
      · have none : ∀ draft, ¬ request.SubmitsDraft draft := fun draft submits =>
          draftSubmitted ⟨draft, submits⟩
        rw [outcome_respond, outcome_respond]
        rcases site.answer_of_submitsNothing none noKey with ⟨answer, -, eq⟩ | ⟨query, eq⟩
        · rw [eq, eq]
          rfl
        · rw [eq, eq, showAccount_eq, showAccount_eq, outcome_page, outcome_page]

end Site

end AccountPanel
