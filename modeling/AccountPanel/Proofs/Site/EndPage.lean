import AccountPanel.Proofs.Site.KeysPage
import AccountPanel.Proofs.Store

/-!
# The page a change ends on

A submitted form is answered by a page or by a redirection, and a redirection is followed. The page
that is reached so shows the keys that the store holds after the change, and it says of a change
that was refused, and of no other, that it was refused.
-/

namespace AccountPanel

open Http Page

/-- Does the request ask to delete a key that is not stored? -/
def Http.Request.DeletesMissing (request : Request) (keys : List Key) : Prop :=
  ∃ key, request.SubmitsKey key ∧ key ∉ keys

/-- Does the request ask to add a filled draft under a name that is in use? -/
def Http.Request.AddsTaken (request : Request) (keys : List Key) : Prop :=
  ∃ draft, request.SubmitsDraft draft ∧ draft.isFilled = true ∧
    ∃ stored ∈ keys, stored.name = Text.trim draft.name

namespace Site

variable {σ : Type} (site : Site)

/-- Follow a response to the address it sends its reader to, if it sends them anywhere. -/
def follow (backend : Backend σ) (response : Response) : StateM σ Response :=
  match response.headers.lookup "location" with
  | some location => site.respond backend (Request.get location)
  | none => pure response

theorem follow_seeOther (backend : Backend σ) (location : String) :
    site.follow backend (Answer.seeOther location).response =
      site.respond backend (Request.get location) := rfl

theorem follow_refusedForm (backend : Backend σ) (html : String) (state : σ) :
    site.follow backend (Answer.refusedForm html).response state =
      ((Answer.refusedForm html).response, state) := rfl

/-- The request is answered with this status, and its reader ends on a page with these messages that
shows the keys stored then. Following the response changes nothing. -/
structure EndsOn (request : Request) (store : Store) (status : Nat) (messages : List String) : Prop
    where
  answered : (site.respond Backend.inMemory request store).1.status = status
  page : Reading.Shows
    (Markup.read
      (site.follow Backend.inMemory (site.respond Backend.inMemory request store).1
        (site.respond Backend.inMemory request store).2).1.body)
    (site.respond Backend.inMemory request store).2.keys (status == 422) messages
  kept : (site.follow Backend.inMemory (site.respond Backend.inMemory request store).1
    (site.respond Backend.inMemory request store).2).2 =
      (site.respond Backend.inMemory request store).2

variable {request : Request} {draft : Draft} {key : Key} (store : Store)

/-- A redirection to the tab of the keys ends on a page without a message. -/
theorem endsOn_of_keys {after : Store}
    (answered : site.respond Backend.inMemory request store =
      ((Answer.seeOther "/account?tab=ssh-keys").response, after)) :
    site.EndsOn request store 303 [] := by
  have followed := site.respond_keys Backend.inMemory after
  constructor
  · rw [answered]
    rfl
  · rw [answered, follow_seeOther, followed]
    exact Reading.shows_render (site.keysPanel (some after.keys) []) rfl
  · rw [answered, follow_seeOther, followed]
    rfl

/-- A redirection with the notice of a refused deletion ends on a page with its message. -/
theorem endsOn_of_deleteFailed {after : Store}
    (answered : site.respond Backend.inMemory request store =
      ((Answer.seeOther "/account?tab=ssh-keys&notice=delete-failed").response, after)) :
    site.EndsOn request store 303 ["Could not delete the SSH key"] := by
  have followed := site.respond_deleteFailed Backend.inMemory after
  constructor
  · rw [answered]
    rfl
  · rw [answered, follow_seeOther, followed]
    exact Reading.shows_render (site.keysPanel (some after.keys) ["Could not delete the SSH key"])
      rfl
  · rw [answered, follow_seeOther, followed]
    rfl

/-- A form that is shown again is the page its reader ends on. -/
theorem endsOn_of_form {form : Modal} {messages : List String}
    (answered : site.respond Backend.inMemory request store =
      ((Answer.refusedForm (site.formPanel (some store.keys) form messages).render).response,
        store)) :
    site.EndsOn request store 422 messages := by
  constructor
  · rw [answered]
    rfl
  · rw [answered, follow_refusedForm]
    exact Reading.shows_render (site.formPanel (some store.keys) form messages) rfl
  · rw [answered, follow_refusedForm]

/-! ## The ways a change can go -/

theorem endsOn_of_unfilled (submits : request.SubmitsDraft draft)
    (unfilled : draft.isFilled = false) : site.EndsOn request store 422 [] :=
  site.endsOn_of_form store (site.respond_of_unfilled Backend.inMemory store submits unfilled)

theorem endsOn_of_taken (submits : request.SubmitsDraft draft) (filled : draft.isFilled = true)
    (taken : ∃ stored ∈ store.keys, stored.name = draft.trimmed.name) :
    site.EndsOn request store 422 ["Could not add the SSH key"] := by
  have answered := site.respond_of_filled Backend.inMemory store submits filled
  have change : Backend.inMemory.change (.add draft.trimmed) (Backend.inMemory.list store).2 =
      (false, store) := store.add_of_taken taken
  rw [change] at answered
  exact site.endsOn_of_form store answered

theorem endsOn_of_fresh (submits : request.SubmitsDraft draft) (filled : draft.isFilled = true)
    (fresh : ∀ stored ∈ store.keys, stored.name ≠ draft.trimmed.name) :
    site.EndsOn request store 303 [] := by
  have answered := site.respond_of_filled Backend.inMemory store submits filled
  have change : Backend.inMemory.change (.add draft.trimmed) (Backend.inMemory.list store).2 =
      (true, ⟨store.keys ++ [draft.trimmed]⟩) := store.add_of_fresh fresh
  rw [change] at answered
  exact site.endsOn_of_keys store answered

theorem endsOn_of_mem (submits : request.SubmitsKey key) (member : key ∈ store.keys) :
    site.EndsOn request store 303 [] := by
  have answered := site.respond_of_submitsKey Backend.inMemory store submits
  rcases store.delete_of_mem member with ⟨front, behind, -, -, deleted⟩
  have change : Backend.inMemory.change (.delete key) store = (true, ⟨front ++ behind⟩) := deleted
  rw [change] at answered
  exact site.endsOn_of_keys store answered

theorem endsOn_of_notMem (submits : request.SubmitsKey key) (absent : key ∉ store.keys) :
    site.EndsOn request store 303 ["Could not delete the SSH key"] := by
  have answered := site.respond_of_submitsKey Backend.inMemory store submits
  have change : Backend.inMemory.change (.delete key) store = (false, store) :=
    store.delete_of_notMem absent
  rw [change] at answered
  exact site.endsOn_of_deleteFailed store answered

/-- The messages that a change ends on, by what was refused. -/
inductive Told (request : Request) (keys : List Key) : List String → Prop where
  | deletion (refused : request.DeletesMissing keys) (noAdd : ¬ request.AddsTaken keys) :
      Told request keys ["Could not delete the SSH key"]
  | addition (refused : request.AddsTaken keys) (noDelete : ¬ request.DeletesMissing keys) :
      Told request keys ["Could not add the SSH key"]
  | nothing (noAdd : ¬ request.AddsTaken keys) (noDelete : ¬ request.DeletesMissing keys) :
      Told request keys []

theorem endsOn_of_submitsDraft (submits : request.SubmitsDraft draft) :
    ∃ status messages, (status = 303 ∨ status = 422) ∧ site.EndsOn request store status messages ∧
      Told request store.keys messages := by
  have noDelete : ¬ request.DeletesMissing store.keys := by
    intro refused
    rcases refused with ⟨key, other, -⟩
    exact submits.not_submitsKey other
  cases filled : draft.isFilled with
  | false =>
      have noAdd : ¬ request.AddsTaken store.keys := by
        intro refused
        rcases refused with ⟨other, again, otherFilled, -⟩
        rw [← submits.draft_eq again, filled] at otherFilled
        cases otherFilled
      exact ⟨422, [], .inr rfl, site.endsOn_of_unfilled store submits filled,
        .nothing noAdd noDelete⟩
  | true =>
      by_cases taken : ∃ stored ∈ store.keys, stored.name = draft.trimmed.name
      · exact ⟨422, _, .inr rfl, site.endsOn_of_taken store submits filled taken,
          .addition ⟨draft, submits, filled, taken⟩ noDelete⟩
      · have noAdd : ¬ request.AddsTaken store.keys := by
          intro refused
          rcases refused with ⟨other, again, -, otherTaken⟩
          rw [← submits.draft_eq again] at otherTaken
          exact taken otherTaken
        have fresh : ∀ stored ∈ store.keys, stored.name ≠ draft.trimmed.name :=
          fun stored member same => taken ⟨stored, member, same⟩
        exact ⟨303, [], .inl rfl, site.endsOn_of_fresh store submits filled fresh,
          .nothing noAdd noDelete⟩

theorem endsOn_of_submitsKey (submits : request.SubmitsKey key) :
    ∃ status messages, (status = 303 ∨ status = 422) ∧ site.EndsOn request store status messages ∧
      Told request store.keys messages := by
  have noAdd : ¬ request.AddsTaken store.keys := by
    intro refused
    rcases refused with ⟨draft, other, -⟩
    exact other.not_submitsKey submits
  by_cases member : key ∈ store.keys
  · have noDelete : ¬ request.DeletesMissing store.keys := by
      intro refused
      rcases refused with ⟨other, again, absent⟩
      rw [← submits.key_eq again] at absent
      exact absent member
    exact ⟨303, [], .inl rfl, site.endsOn_of_mem store submits member, .nothing noAdd noDelete⟩
  · exact ⟨303, _, .inl rfl, site.endsOn_of_notMem store submits member,
      .deletion ⟨key, submits, member⟩ noAdd⟩

/-- A submitted draft or key ends on the tab of the keys. The page shows the keys that are stored
then, the modal exactly if the form is shown again, and the one message that fits what was
refused. -/
theorem end_page_shows_store (keys : List Key)
    (accepted : (∃ draft, request.SubmitsDraft draft) ∨ ∃ key, request.SubmitsKey key) :
    let answered := site.respond Backend.inMemory request ⟨keys⟩
    let shown := site.follow Backend.inMemory answered.1 answered.2
    let page := Markup.read shown.1.body
    (answered.1.status = 303 ∨ answered.1.status = 422) ∧ shown.2 = answered.2 ∧
      Reading.chosenLabel page = "SSH Keys" ∧
      (Reading.rows page).map (·.key) = answered.2.keys ∧
      (Reading.emptyNotes page = if answered.2.keys = [] then ["No SSH keys"] else []) ∧
      ((Reading.modalForm? page).isSome ↔ answered.1.status = 422) ∧
      (Reading.flashes page = ["Could not delete the SSH key"] ↔ request.DeletesMissing keys) ∧
      (Reading.flashes page = ["Could not add the SSH key"] ↔ request.AddsTaken keys) ∧
      (Reading.flashes page = [] ↔
        ¬ request.DeletesMissing keys ∧ ¬ request.AddsTaken keys) := by
  intro answered shown page
  have ends : ∃ status messages, (status = 303 ∨ status = 422) ∧
      site.EndsOn request ⟨keys⟩ status messages ∧ Told request keys messages := by
    rcases accepted with ⟨draft, submits⟩ | ⟨key, submits⟩
    · exact site.endsOn_of_submitsDraft ⟨keys⟩ submits
    · exact site.endsOn_of_submitsKey ⟨keys⟩ submits
  rcases ends with ⟨status, messages, kind, ends, told⟩
  have same : answered.1.status = status := ends.answered
  refine ⟨same ▸ kind, ends.kept, ends.page.label, ends.page.rows, ends.page.notes, ?_, ?_⟩
  · rw [ends.page.modal, same, beq_iff_eq]
  · rw [ends.page.flashes]
    cases told with
    | deletion refused noAdd => simp [refused, noAdd]
    | addition refused noDelete => simp [refused, noDelete]
    | nothing noAdd noDelete => simp [noAdd, noDelete]

/-- A name that is in use up to blanks ends on the keys as they were and on the message. -/
theorem end_page_shows_store_of_taken :
    let site : Site := { profile := {} }
    let form : Form := ⟨"/account/ssh-keys", [("name", "<a>&\t"), ("key", " + ")]⟩
    let keys : List Key := [⟨"<a>&", "k"⟩, ⟨"<a>&", "\"\n"⟩]
    let answered := site.respond Backend.inMemory form.submission ⟨keys⟩
    let shown := site.follow Backend.inMemory answered.1 answered.2
    let page := Markup.read shown.1.body
    form.submission.SubmitsDraft ⟨"<a>&\t", " + "⟩ ∧
      (Reading.rows page).map (·.key) = answered.2.keys ∧
      Reading.flashes page = ["Could not add the SSH key"] := by
  intro site form keys answered shown page
  have submits : form.submission.SubmitsDraft ⟨"<a>&\t", " + "⟩ :=
    (Request.submits_submission form).submitsDraft (by decide) rfl rfl
  have taken : form.submission.AddsTaken keys :=
    ⟨_, submits, by decide, _, List.mem_cons_self, by decide⟩
  obtain ⟨-, -, -, rows, -, -, -, addition, -⟩ :=
    site.end_page_shows_store keys (.inl ⟨_, submits⟩)
  exact ⟨submits, rows, addition.mpr taken⟩

end Site

end AccountPanel
