import AccountPanel.Proofs.Http.Record
import AccountPanel.Proofs.Site.Answer

/-!
# Which requests are understood

Two addresses read the fields of a form as a record, and the account page reads those of its query.
Fields that are no record are refused before any backend is asked. Of fields that are one, only the
values of the known names count: neither fields with other names nor the order of the fields changes
the answer or what becomes of the backend.
-/

namespace AccountPanel

open Http Record

/-- Does the request send a form to this address, of a size that is read? -/
structure Http.Request.PostsForm (request : Request) (path : String) : Prop where
  method : request.method = "POST"
  path : request.path = path
  hasForm : request.hasForm = true
  fits : request.body.length ≤ 2097152

/-- Does the request ask for the account page? -/
structure Http.Request.GetsAccount (request : Request) : Prop where
  method : request.method = "GET"
  path : request.path = "/account"

/-- Does the response refuse its request in plain words, with this status? -/
structure Http.Response.Refuses (response : Response) (status : Nat) : Prop where
  status : response.status = status
  contentType : response.headers.lookup "content-type" = some "text/plain; charset=utf-8"

namespace Http

theorem refuses_rejected (cause : Rejection) :
    (Answer.rejected cause).response.Refuses cause.status :=
  ⟨rfl, rfl⟩

/-- A form that is shown again has the status of a refusal, but is a page. -/
theorem not_refuses_refusedForm (html : String) (status : Nat) :
    ¬ (Answer.refusedForm html).response.Refuses status := by
  intro refuses
  have said : some "text/html; charset=utf-8" = some "text/plain; charset=utf-8" :=
    refuses.contentType
  exact absurd said (by decide)

theorem not_refuses_seeOther (location : String) (status : Nat) :
    ¬ (Answer.seeOther location).response.Refuses status := by
  intro refuses
  cases refuses.contentType

end Http

namespace Site

variable {σ : Type} (site : Site) (backend : Backend σ) (state : σ) {request other : Request}

/-! ## Answers that depend on a record -/

/-- Is the request answered with this response by every backend, without one being asked? -/
def AnswersAlone (request : Request) (response : Response) : Prop :=
  ∀ {τ : Type} (backend : Backend τ) (state : τ),
    site.respond backend request state = (response, state)

/-- Is the request answered by what was read as a record: with a refusal if it is none, and else by
what handles the record? -/
structure AnswersRecord {α : Type} (request : Request) (reading : Except RecordError α)
    (refusal : RecordError → Rejection)
    (handle : {τ : Type} → Backend τ → α → StateM τ Answer) : Prop where
  noHead : request.method ≠ "HEAD"
  answer : ∀ {τ : Type} (backend : Backend τ),
    site.answer backend request =
      match reading with
      | .error cause => pure (.rejected (refusal cause))
      | .ok record => handle backend record

namespace AnswersRecord

variable {site} {α : Type} {reading : Except RecordError α} {refusal : RecordError → Rejection}
variable {handle : {τ : Type} → Backend τ → α → StateM τ Answer}

/-- What is no record is refused, and no backend is asked. -/
theorem answersAlone (answers : site.AnswersRecord request reading refusal handle)
    {cause : RecordError} (unread : reading = .error cause) :
    site.AnswersAlone request (Answer.rejected (refusal cause)).response := by
  intro τ backend state
  rw [site.respond_of_method backend state answers.noHead, answers.answer backend, unread]
  rfl

theorem respond_of_read (answers : site.AnswersRecord request reading refusal handle)
    {record : α} (read : reading = .ok record) :
    site.respond backend request state =
      ((handle backend record state).1.response, (handle backend record state).2) := by
  rw [site.respond_of_method backend state answers.noHead, answers.answer backend, read]

/-- Requests that are read as the same record get the same response and do the same. -/
theorem respond_eq {readingOther : Except RecordError α}
    (answers : site.AnswersRecord request reading refusal handle)
    (answersOther : site.AnswersRecord other readingOther refusal handle)
    (same : readingOther = reading) :
    site.respond backend other state = site.respond backend request state := by
  subst same
  rw [site.respond_of_method backend state answers.noHead, answers.answer backend,
    site.respond_of_method backend state answersOther.noHead, answersOther.answer backend]

/-- Refusals are answers to what is no record, if what handles records does not refuse. -/
theorem refuses_iff (answers : site.AnswersRecord request reading refusal handle) {status : Nat}
    (statuses : ∀ cause, (refusal cause).status = status)
    (handles : ∀ record, ¬ (handle backend record state).1.response.Refuses status) :
    (site.respond backend request state).1.Refuses status ↔ ¬ ∃ record, reading = .ok record := by
  cases read : reading with
  | error cause =>
      rw [answers.answersAlone read backend state, ← statuses cause]
      exact iff_of_true (refuses_rejected _) (by simp)
  | ok record =>
      rw [answers.respond_of_read backend state read]
      exact iff_of_false (handles record) (by simp)

/-- A refused request is answered by every backend alike. -/
theorem answersAlone_of_unread (answers : site.AnswersRecord request reading refusal handle)
    (unread : ¬ ∃ record, reading = .ok record) :
    site.AnswersAlone request (site.respond backend request state).1 := by
  cases read : reading with
  | error cause =>
      rw [answers.answersAlone read backend state]
      exact answers.answersAlone read
  | ok record => exact absurd ⟨record, read⟩ unread

end AnswersRecord

/-! ## The three records -/

theorem answersRecord_of_postsDraft (posts : request.PostsForm "/account/ssh-keys") :
    site.AnswersRecord request (readDraft (Urlencoded.decode request.body)) .body site.addKey where
  noHead := by simp [posts.method]
  answer := by
    intro τ backend
    have draft : request.draft = (readDraft (Urlencoded.decode request.body)).mapError .body := by
      rw [Request.draft, Request.formFields_of_hasForm posts.hasForm posts.fits]
      rfl
    rw [site.answer_at_addKey backend posts.method posts.path, draft]
    cases readDraft (Urlencoded.decode request.body) <;> rfl

theorem answersRecord_of_postsKey (posts : request.PostsForm "/account/ssh-keys/delete") :
    site.AnswersRecord request (readKey (Urlencoded.decode request.body)) .body deleteKey where
  noHead := by simp [posts.method]
  answer := by
    intro τ backend
    have key : request.key = (readKey (Urlencoded.decode request.body)).mapError .body := by
      rw [Request.key, Request.formFields_of_hasForm posts.hasForm posts.fits]
      rfl
    rw [site.answer_at_deleteKey backend posts.method posts.path, key]
    cases readKey (Urlencoded.decode request.body) <;> rfl

theorem answersRecord_of_getsAccount (gets : request.GetsAccount) :
    site.AnswersRecord request (readPageQuery request.queryFields) .query site.showAccount where
  noHead := by simp [gets.method]
  answer := by
    intro τ backend
    rw [site.answer_at_account backend gets.method gets.path]
    cases readPageQuery request.queryFields <;> rfl

/-! ## Records are not refused -/

theorem not_refuses_addKey (draft : Draft) (status : Nat) :
    ¬ (site.addKey backend draft state).1.response.Refuses status := by
  cases filled : draft.isFilled with
  | false =>
      rw [site.addKey_of_unfilled backend state filled]
      exact not_refuses_refusedForm _ status
  | true =>
      rw [site.addKey_of_filled backend state filled]
      cases (backend.change (.add draft.trimmed) (backend.list state).2).1 with
      | false => exact not_refuses_refusedForm _ status
      | true => exact not_refuses_seeOther _ status

theorem not_refuses_deleteKey (key : Key) (status : Nat) :
    ¬ (deleteKey backend key state).1.response.Refuses status := by
  rw [deleteKey_eq]
  cases (backend.change (.delete key) state).1 with
  | false => exact not_refuses_seeOther _ status
  | true => exact not_refuses_seeOther _ status

theorem status_showAccount (query : PageQuery) :
    (site.showAccount backend query state).1.response.status = 200 := by
  rw [showAccount_eq]
  rfl

/-! ## What is understood at the three addresses -/

theorem refuses_postsDraft_iff (posts : request.PostsForm "/account/ssh-keys") :
    (site.respond backend request state).1.Refuses 422 ↔
      ¬ ∃ draft, readDraft (Urlencoded.decode request.body) = .ok draft :=
  (site.answersRecord_of_postsDraft posts).refuses_iff backend state (fun _ => rfl)
    fun draft => site.not_refuses_addKey backend state draft 422

theorem refuses_postsKey_iff (posts : request.PostsForm "/account/ssh-keys/delete") :
    (site.respond backend request state).1.Refuses 422 ↔
      ¬ ∃ key, readKey (Urlencoded.decode request.body) = .ok key :=
  (site.answersRecord_of_postsKey posts).refuses_iff backend state (fun _ => rfl)
    fun key => not_refuses_deleteKey backend state key 422

/-- The account page is shown for what is a query, and all else is refused. -/
theorem status_getsAccount (gets : request.GetsAccount) :
    (∃ query, readPageQuery request.queryFields = .ok query) ∧
        (site.respond backend request state).1.status = 200 ∨
      (¬ ∃ query, readPageQuery request.queryFields = .ok query) ∧
        (site.respond backend request state).1.status = 400 := by
  have answers := site.answersRecord_of_getsAccount gets
  cases read : readPageQuery request.queryFields with
  | error cause =>
      rw [answers.answersAlone read backend state]
      exact .inr ⟨by simp, rfl⟩
  | ok query =>
      rw [answers.respond_of_read backend state read]
      exact .inl ⟨⟨query, rfl⟩, site.status_showAccount backend state query⟩

/-- Requests are understood by the counts of the known names among their fields. To add a key each
may occur once at most, and a missing one is an empty text; to delete a key each has to occur once;
to ask for the account page each may occur once at most. What is not understood is refused by every
backend alike, without one being asked. What is understood gets the same response and does the same
whatever other fields there are and whatever the order of the fields is. -/
theorem understood_exactly (request : Request) :
    let submitted := Urlencoded.decode request.body
    let asked := request.queryFields
    let answered := site.respond backend request state
    (request.PostsForm "/account/ssh-keys" →
      (answered.1.Refuses 422 ↔
        1 < occurrences submitted "name" ∨ 1 < occurrences submitted "key") ∧
      (answered.1.Refuses 422 → site.AnswersAlone request answered.1) ∧
      (¬ answered.1.Refuses 422 → ∀ other : Request, other.PostsForm "/account/ssh-keys" →
        AgreeOn ["name", "key"] submitted (Urlencoded.decode other.body) ∨
          Urlencoded.decode other.body =
            [("name", (submitted.lookup "name").getD ""),
              ("key", (submitted.lookup "key").getD "")] →
        site.respond backend other state = answered)) ∧
    (request.PostsForm "/account/ssh-keys/delete" →
      (answered.1.Refuses 422 ↔
        occurrences submitted "name" ≠ 1 ∨ occurrences submitted "key" ≠ 1) ∧
      (answered.1.Refuses 422 → site.AnswersAlone request answered.1) ∧
      (¬ answered.1.Refuses 422 → ∀ other : Request, other.PostsForm "/account/ssh-keys/delete" →
        AgreeOn ["name", "key"] submitted (Urlencoded.decode other.body) →
        site.respond backend other state = answered)) ∧
    (request.GetsAccount →
      answered.1.status =
        (if ∃ name ∈ ["tab", "modal", "notice"], 1 < occurrences asked name then 400 else 200) ∧
      (answered.1.status = 400 → site.AnswersAlone request answered.1) ∧
      (answered.1.status = 200 → ∀ other : Request, other.GetsAccount →
        AgreeOn ["tab", "modal", "notice"] asked other.queryFields →
        site.respond backend other state = answered)) := by
  intro submitted asked answered
  refine ⟨fun posts => ?_, fun posts => ?_, fun gets => ?_⟩
  · have answers := site.answersRecord_of_postsDraft posts
    have refuses := site.refuses_postsDraft_iff backend state posts
    refine ⟨refuses.trans not_exists_readDraft_iff,
      fun refused => answers.answersAlone_of_unread backend state (refuses.mp refused), ?_⟩
    intro understood other postsOther same
    have reads : ∃ draft, readDraft submitted = .ok draft := not_not.mp (mt refuses.mpr understood)
    apply answers.respond_eq backend state (site.answersRecord_of_postsDraft postsOther)
    rcases same with agree | complete
    · exact readDraft_of_agreeOn agree reads
    · exact readDraft_of_complete complete reads
  · have answers := site.answersRecord_of_postsKey posts
    have refuses := site.refuses_postsKey_iff backend state posts
    refine ⟨refuses.trans not_exists_readKey_iff,
      fun refused => answers.answersAlone_of_unread backend state (refuses.mp refused), ?_⟩
    intro understood other postsOther agree
    have reads : ∃ key, readKey submitted = .ok key := not_not.mp (mt refuses.mpr understood)
    exact answers.respond_eq backend state (site.answersRecord_of_postsKey postsOther)
      (readKey_of_agreeOn agree reads)
  · have answers := site.answersRecord_of_getsAccount gets
    have repeated : (¬ ∃ query, readPageQuery asked = .ok query) ↔ _ :=
      not_exists_readPageQuery_iff
    rcases site.status_getsAccount backend state gets with ⟨reads, shown⟩ | ⟨unread, refused⟩
    · refine ⟨shown.trans (if_neg fun named => repeated.mpr named reads).symm, ?_, ?_⟩
      · intro refused
        exact absurd (shown.symm.trans refused) (by decide)
      · intro _ other getsOther agree
        exact answers.respond_eq backend state (site.answersRecord_of_getsAccount getsOther)
          (readPageQuery_of_agreeOn agree reads)
    · refine ⟨refused.trans (if_pos (repeated.mp unread)).symm, ?_, ?_⟩
      · intro _
        exact answers.answersAlone_of_unread backend state unread
      · intro shown
        exact absurd (shown.symm.trans refused) (by decide)

/-- A form with percent triples in a name, octets that are no text, empty segments and other fields
is understood as the plain form. A key without its text is refused, and so is a tab named twice. -/
theorem understood_exactly_of_malformed :
    let site : Site := { profile := {} }
    let store : Store := ⟨[⟨"desk", "A"⟩]⟩
    let addition : Request :=
      ⟨"POST", "/account/ssh-keys?name=x", some formContentType,
        Text.Utf8.encode "&n%61me=a%FF%Z+b&&x&key=k&=&Key=1&name%00".toList⟩
    let plain : Request :=
      ⟨"POST", "/account/ssh-keys", some formContentType,
        Text.Utf8.encode "key=k&name=a%EF%BF%BD%25Z%20b".toList⟩
    let deletion : Request :=
      ⟨"POST", "/account/ssh-keys/delete", some formContentType,
        Text.Utf8.encode "name=desk".toList⟩
    let link : Request := Request.get "/account?tab=info&t%61b"
    ¬ (site.respond Backend.inMemory addition store).1.Refuses 422 ∧
      site.respond Backend.inMemory plain store = site.respond Backend.inMemory addition store ∧
      (site.respond Backend.inMemory deletion store).1.Refuses 422 ∧
      site.AnswersAlone deletion (site.respond Backend.inMemory deletion store).1 ∧
      (site.respond Backend.inMemory link store).1.status = 400 := by
  intro site store addition plain deletion link
  have posts : addition.PostsForm "/account/ssh-keys" :=
    ⟨rfl, by decide, by decide, by decide⟩
  have postsPlain : plain.PostsForm "/account/ssh-keys" := ⟨rfl, by decide, by decide, by decide⟩
  have postsDeletion : deletion.PostsForm "/account/ssh-keys/delete" :=
    ⟨rfl, by decide, by decide, by decide⟩
  have gets : link.GetsAccount := ⟨rfl, by decide⟩
  obtain ⟨refusedAddition, -, understood⟩ :=
    (site.understood_exactly Backend.inMemory store addition).1 posts
  obtain ⟨refusedDeletion, alone, -⟩ :=
    (site.understood_exactly Backend.inMemory store deletion).2.1 postsDeletion
  have status := ((site.understood_exactly Backend.inMemory store link).2.2 gets).1
  have accepted : ¬ (site.respond Backend.inMemory addition store).1.Refuses 422 := by
    rw [refusedAddition]
    decide +kernel
  have refused := refusedDeletion.mpr (by decide +kernel)
  have same := understood accepted plain postsPlain (.inl (by decide +kernel))
  exact ⟨accepted, same, refused, alone refused, status.trans (if_pos (by decide +kernel))⟩

end Site

end AccountPanel
