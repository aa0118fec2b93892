import AccountPanel.Proofs.Site.Request

/-!
# What a request comes to

One equation for each kind of request, over any backend: a draft that is filled in asks the backend
to add a key, a draft that is not is shown again, a key asks the backend to delete it. Every other
request is answered without asking for a change.
-/

namespace AccountPanel

open Http

/-- Does the response send its reader to this address? -/
def Http.Response.RedirectsTo (response : Response) (location : String) : Prop :=
  response.status = 303 ∧ response.headers.lookup "location" = some location

theorem Http.redirectsTo_seeOther (location : String) :
    (Answer.seeOther location).response.RedirectsTo location :=
  ⟨rfl, rfl⟩

/-- A response sends its reader to one address. -/
theorem Http.Response.RedirectsTo.location_eq {response : Response} {first second : String}
    (one : response.RedirectsTo first) (other : response.RedirectsTo second) : first = second :=
  Option.some.inj (one.2.symm.trans other.2)

theorem Http.Route.path_eq_of_ofPath? {path : String} {route : Route}
    (found : Route.ofPath? path = some route) : path = route.path := by
  have passes := List.find?_some found
  exact (eq_of_beq passes).symm

theorem bind_apply {σ α β : Type} (first : StateM σ α) (next : α → StateM σ β) (state : σ) :
    (first >>= next) state = next (first state).1 (first state).2 := rfl

namespace Site

variable {σ : Type} (site : Site) (backend : Backend σ) (state : σ)
variable {request : Request} {draft : Draft} {key : Key}

/-! ## The pages -/

/-- The panel that shows a form again below messages. -/
def formPanel (listed : Option (List Key)) (form : Modal) (flashes : List String) : Panel :=
  { site.panel listed with activeTab := .keys, modal := some form, flashes := flashes }

/-- The panel that a query asks for. -/
def queryPanel (listed : Option (List Key)) (query : PageQuery) : Panel :=
  { site.panel listed with
    activeTab := if query.modal = some "add" then .keys else Tab.ofSlug query.tab
    modal := if query.modal = some "add" then some {} else none
    flashes := (noticeMessage? query.notice).toList }

theorem showAccount_eq (query : PageQuery) :
    site.showAccount backend query state =
      (.page (site.queryPanel (backend.list state).1 query).render, (backend.list state).2) := by
  rw [showAccount, bind_apply, queryPanel]
  by_cases opened : query.modal = some "add"
  · simp only [if_pos opened]
    cases noticeMessage? query.notice <;> rfl
  · simp only [if_neg opened]
    cases noticeMessage? query.notice <;> rfl

/-! ## Changes -/

theorem addKey_eq :
    site.addKey backend draft state =
      site.finishAdd backend (backend.list state).1 draft (backend.list state).2 := by
  rw [addKey, bind_apply]

theorem addKey_of_unfilled (unfilled : draft.isFilled = false) :
    site.addKey backend draft state =
      (.refusedForm (site.formPanel (backend.list state).1 ⟨draft, draft.errors⟩ []).render,
        (backend.list state).2) := by
  rw [addKey_eq, finishAdd, draft.toKey_of_unfilled unfilled]
  rfl

/-- The answer to a key that was to be added, by what the backend says. -/
def addAnswer (listed : Option (List Key)) (key : Key) : Bool → Answer
  | true => .seeOther "/account?tab=ssh-keys"
  | false =>
    .refusedForm
      (site.formPanel listed ⟨.ofKey key, {}⟩ ["Could not add the SSH key"]).render

theorem finishAdd_of_filled {listed : Option (List Key)} {accepted : Bool} {next : σ}
    (filled : draft.isFilled = true)
    (verdict : backend.change (.add draft.trimmed) state = (accepted, next)) :
    site.finishAdd backend listed draft state =
      (site.addAnswer listed draft.trimmed accepted, next) := by
  rw [finishAdd, draft.toKey_of_filled filled, accountUrl_keys]
  simp only [Panel.addKey, Backend.add, bind_apply, verdict]
  cases accepted <;> rfl

theorem addKey_of_filled (filled : draft.isFilled = true) :
    site.addKey backend draft state =
      (site.addAnswer (backend.list state).1 draft.trimmed
          (backend.change (.add draft.trimmed) (backend.list state).2).1,
        (backend.change (.add draft.trimmed) (backend.list state).2).2) := by
  rw [addKey_eq]
  exact site.finishAdd_of_filled backend (backend.list state).2 filled rfl

/-- The answer to a key that was to be deleted, by what the backend says. -/
def deleteAnswer : Bool → Answer
  | true => .seeOther "/account?tab=ssh-keys"
  | false => .seeOther "/account?tab=ssh-keys&notice=delete-failed"

theorem deleteKey_eq :
    deleteKey backend key state =
      (deleteAnswer (backend.change (.delete key) state).1,
        (backend.change (.delete key) state).2) := by
  have answer : ∀ accepted : Bool,
      .seeOther (accountUrl .keys (if accepted then none else some deleteFailed)) =
        deleteAnswer accepted := by
    intro accepted
    cases accepted with
    | false => exact congrArg _ accountUrl_deleteFailed
    | true => exact congrArg _ accountUrl_keys
  rw [← answer]
  rfl

/-! ## Answers -/

/-- What is posted to the address that adds keys is answered by the draft that it holds. -/
theorem answer_at_addKey (method : request.method = "POST")
    (path : request.path = "/account/ssh-keys") :
    site.answer backend request =
      match request.draft with
      | .error cause => pure (.rejected cause)
      | .ok draft => site.addKey backend draft := by
  have route : Route.ofPath? "/account/ssh-keys" = some .addKey := by decide
  rw [answer, path, route]
  simp only [method, Route.methods, answerAt]
  cases request.draft <;> rfl

/-- What is posted to the address that deletes keys is answered by the key that it holds. -/
theorem answer_at_deleteKey (method : request.method = "POST")
    (path : request.path = "/account/ssh-keys/delete") :
    site.answer backend request =
      match request.key with
      | .error cause => pure (.rejected cause)
      | .ok key => deleteKey backend key := by
  have route : Route.ofPath? "/account/ssh-keys/delete" = some .deleteKey := by decide
  rw [answer, path, route]
  simp only [method, Route.methods, answerAt]
  cases request.key <;> rfl

/-- Whoever gets the account page is answered by the query. -/
theorem answer_at_account (method : request.method = "GET") (path : request.path = "/account") :
    site.answer backend request =
      match readPageQuery request.queryFields with
      | .error cause => pure (.rejected (.query cause))
      | .ok query => site.showAccount backend query := by
  have route : Route.ofPath? "/account" = some .account := by decide
  rw [answer, path, route]
  simp only [method, Route.methods, answerAt]
  cases readPageQuery request.queryFields <;> rfl

theorem answer_of_submitsDraft (submits : request.SubmitsDraft draft) :
    site.answer backend request = site.addKey backend draft := by
  rw [site.answer_at_addKey backend submits.method submits.path, submits.draft]

theorem answer_of_submitsKey (submits : request.SubmitsKey key) :
    site.answer backend request = deleteKey backend key := by
  rw [site.answer_at_deleteKey backend submits.method submits.path, submits.key]

/-- The answers that no change leads to, pages apart. -/
def isPlain : Answer → Bool
  | .page _ | .refusedForm _ => false
  | .seeOther location => location == "/account"
  | .stylesheet _ | .rejected _ | .notFound | .methodNotAllowed _ _ => true

/-- A request that submits nothing gets a plain answer or the page that its query asks for, whatever
the backend is. -/
theorem answer_of_submitsNothing (noDraft : ∀ draft, ¬ request.SubmitsDraft draft)
    (noKey : ∀ key, ¬ request.SubmitsKey key) :
    (∃ answer, isPlain answer = true ∧
        ∀ {σ : Type} (backend : Backend σ), site.answer backend request = pure answer) ∨
      ∃ query, ∀ {σ : Type} (backend : Backend σ),
        site.answer backend request = site.showAccount backend query := by
  simp only [answer]
  cases found : Route.ofPath? request.path with
  | none => exact .inl ⟨_, rfl, fun _ => rfl⟩
  | some route =>
      have path := Route.path_eq_of_ofPath? found
      by_cases served : route.methods.contains request.method = true
      · simp only [served, if_true]
        cases route with
        | root => exact .inl ⟨.seeOther "/account", by decide, fun _ => rfl⟩
        | account =>
            simp only [answerAt]
            cases readPageQuery request.queryFields with
            | error cause => exact .inl ⟨_, rfl, fun _ => rfl⟩
            | ok query => exact .inr ⟨query, fun _ => rfl⟩
        | stylesheet => exact .inl ⟨_, rfl, fun _ => rfl⟩
        | addKey =>
            have method : request.method = "POST" := by simpa [Route.methods] using served
            simp only [answerAt]
            cases decoded : request.draft with
            | error cause => exact .inl ⟨_, rfl, fun _ => rfl⟩
            | ok draft => exact (noDraft draft ⟨method, path, decoded⟩).elim
        | deleteKey =>
            have method : request.method = "POST" := by simpa [Route.methods] using served
            simp only [answerAt]
            cases decoded : request.key with
            | error cause => exact .inl ⟨_, rfl, fun _ => rfl⟩
            | ok key => exact (noKey key ⟨method, path, decoded⟩).elim
      · simp only [served]
        exact .inl ⟨_, rfl, fun _ => rfl⟩

/-! ## Responses -/

theorem respond_eq :
    site.respond backend request state =
      (if request.isHead then (site.answer backend request state).1.response.headOnly
        else (site.answer backend request state).1.response,
        (site.answer backend request state).2) := by
  rw [respond, bind_apply]
  rfl

theorem respond_of_method (noHead : request.method ≠ "HEAD") :
    site.respond backend request state =
      ((site.answer backend request state).1.response, (site.answer backend request state).2) := by
  rw [respond_eq, if_neg (by simpa [Request.isHead] using noHead)]

/-- A draft that is not filled in is shown again, and the backend only lists its keys. -/
theorem respond_of_unfilled (submits : request.SubmitsDraft draft)
    (unfilled : draft.isFilled = false) :
    site.respond backend request state =
      ((Answer.refusedForm
        (site.formPanel (backend.list state).1 ⟨draft, draft.errors⟩ []).render).response,
        (backend.list state).2) := by
  rw [site.respond_of_method backend state (by simp [submits.method]),
    site.answer_of_submitsDraft backend submits, site.addKey_of_unfilled backend state unfilled]

/-- A draft that is filled in asks to add its key, and the response follows the backend. -/
theorem respond_of_filled (submits : request.SubmitsDraft draft) (filled : draft.isFilled = true) :
    site.respond backend request state =
      ((site.addAnswer (backend.list state).1 draft.trimmed
          (backend.change (.add draft.trimmed) (backend.list state).2).1).response,
        (backend.change (.add draft.trimmed) (backend.list state).2).2) := by
  rw [site.respond_of_method backend state (by simp [submits.method]),
    site.answer_of_submitsDraft backend submits, site.addKey_of_filled backend state filled]

/-- A key asks to delete it, and the redirection follows the backend. -/
theorem respond_of_submitsKey (submits : request.SubmitsKey key) :
    site.respond backend request state =
      ((deleteAnswer (backend.change (.delete key) state).1).response,
        (backend.change (.delete key) state).2) := by
  rw [site.respond_of_method backend state (by simp [submits.method]),
    site.answer_of_submitsKey backend submits, deleteKey_eq backend state]

/-- The page that a request asks for shows the keys that the backend lists. -/
theorem respond_of_query {query : PageQuery} (method : request.method = "GET")
    (path : request.path = "/account") (asks : readPageQuery request.queryFields = .ok query) :
    site.respond backend request state =
      ((Answer.page (site.queryPanel (backend.list state).1 query).render).response,
        (backend.list state).2) := by
  have shown : site.answer backend request = site.showAccount backend query := by
    rw [site.answer_at_account backend method path, asks]
  rw [site.respond_of_method backend state (by simp [method]), shown, showAccount_eq]

theorem respond_get {target : String} {query : PageQuery}
    (path : (Request.get target).path = "/account")
    (asks : readPageQuery (Request.get target).queryFields = .ok query) :
    site.respond backend (Request.get target) state =
      ((Answer.page (site.queryPanel (backend.list state).1 query).render).response,
        (backend.list state).2) :=
  site.respond_of_query backend state rfl path asks

/-- The statuses of responses that no change leads to, redirections apart. -/
def plainStatuses : List Nat := [200, 400, 404, 405, 413, 415, 422]

theorem status_of_isPlain {answer : Answer} (plain : isPlain answer = true) :
    answer.response.status ∈ plainStatuses ∨ answer.response.RedirectsTo "/account" := by
  cases answer with
  | page | refusedForm => cases plain
  | seeOther location =>
      rw [isPlain, beq_iff_eq] at plain
      rw [plain]
      exact .inr (redirectsTo_seeOther "/account")
  | rejected cause =>
      left
      cases cause <;> simp [Answer.response, Rejection.status, plainStatuses]
  | stylesheet | notFound | methodNotAllowed =>
      left
      simp [Answer.response, plainStatuses]

/-- A request that submits nothing has the backend list its keys at most, and its response does not
look like that to a change. -/
theorem respond_of_submitsNothing (noDraft : ∀ draft, ¬ request.SubmitsDraft draft)
    (noKey : ∀ key, ¬ request.SubmitsKey key) :
    ((site.respond backend request state).2 = state ∨
        (site.respond backend request state).2 = (backend.list state).2) ∧
      ((site.respond backend request state).1.status ∈ plainStatuses ∨
        (site.respond backend request state).1.RedirectsTo "/account") := by
  have same : ∀ answer : Answer, ∀ location,
      (if request.isHead then answer.response.headOnly else answer.response).status =
          answer.response.status ∧
        ((if request.isHead then answer.response.headOnly else answer.response).RedirectsTo
            location ↔ answer.response.RedirectsTo location) := by
    intro answer location
    split
    · exact ⟨rfl, Iff.rfl⟩
    · exact ⟨rfl, Iff.rfl⟩
  rw [respond_eq, (same _ "/account").1, (same _ "/account").2]
  rcases site.answer_of_submitsNothing noDraft noKey with ⟨answer, plain, eq⟩ | ⟨query, eq⟩
  · rw [eq]
    exact ⟨.inl rfl, status_of_isPlain plain⟩
  · rw [eq, showAccount_eq]
    exact ⟨.inr rfl, .inl (by simp [Answer.response, plainStatuses])⟩

end Site

end AccountPanel
