import AccountPanel.Proofs.Page.Content
import AccountPanel.Proofs.Site.Answer
import AccountPanel.Proofs.Site.History

/-!
# What a site asks its backend for

A site asks for a change exactly when a filled draft or a key is submitted, once and with what was
submitted, and it answers by what the backend says. Nothing is assumed of the backend: it may list
any keys or none, and it may refuse or accept anything at any time.
-/

namespace AccountPanel

open Http Page

/-- The changes that a request asks for. -/
inductive Http.Request.AsksFor (request : Request) : List Store.Change → Prop where
  | add {draft : Draft} (submits : request.SubmitsDraft draft) (filled : draft.isFilled = true) :
      AsksFor request [.add draft.trimmed]
  | delete {key : Key} (submits : request.SubmitsKey key) : AsksFor request [.delete key]
  | nothing (noDraft : ∀ draft, request.SubmitsDraft draft → draft.isFilled = false)
      (noKey : ∀ key, ¬ request.SubmitsKey key) : AsksFor request []

namespace Http.Request.AsksFor

variable {request : Request} {changes : List Store.Change}

theorem eq_add_iff (asks : request.AsksFor changes) (key : Key) :
    changes = [.add key] ↔
      ∃ draft, request.SubmitsDraft draft ∧ draft.isFilled = true ∧ key = draft.trimmed := by
  cases asks with
  | @add draft submits filled =>
      simp only [List.cons.injEq, and_true, Store.Change.add.injEq]
      constructor
      · intro same
        subst same
        exact ⟨draft, submits, filled, rfl⟩
      · intro asked
        rcases asked with ⟨other, again, -, rfl⟩
        rw [submits.draft_eq again]
  | delete submits =>
      constructor
      · intro same
        cases same
      · intro asked
        rcases asked with ⟨draft, other, -, -⟩
        exact (other.not_submitsKey submits).elim
  | nothing noDraft noKey =>
      constructor
      · intro same
        cases same
      · intro asked
        rcases asked with ⟨draft, submits, filled, -⟩
        rw [noDraft draft submits] at filled
        cases filled

theorem eq_delete_iff (asks : request.AsksFor changes) (key : Key) :
    changes = [.delete key] ↔ request.SubmitsKey key := by
  cases asks with
  | add submits filled =>
      constructor
      · intro same
        cases same
      · intro other
        exact (submits.not_submitsKey other).elim
  | delete submits =>
      simp only [List.cons.injEq, and_true, Store.Change.delete.injEq]
      constructor
      · intro same
        subst same
        exact submits
      · exact submits.key_eq
  | nothing noDraft noKey =>
      constructor
      · intro same
        cases same
      · intro submits
        exact (noKey key submits).elim

theorem eq_nil_iff (asks : request.AsksFor changes) :
    changes = [] ↔
      (∀ draft, request.SubmitsDraft draft → draft.isFilled = false) ∧
        ∀ key, ¬ request.SubmitsKey key := by
  cases asks with
  | @add draft submits filled =>
      constructor
      · intro same
        cases same
      · intro quiet
        rcases quiet with ⟨noDraft, -⟩
        rw [noDraft draft submits] at filled
        cases filled
  | delete submits =>
      constructor
      · intro same
        cases same
      · intro quiet
        rcases quiet with ⟨-, noKey⟩
        exact (noKey _ submits).elim
  | nothing noDraft noKey => exact iff_of_true rfl ⟨noDraft, noKey⟩

end Http.Request.AsksFor

namespace Site

variable {σ : Type} (site : Site) (backend : Backend σ)

/-! ## Recording a backend -/

/-- A record changes no response and no state, and it grows by what the request asks for. -/
theorem respond_recorded (request : Request) (state : σ) (calls : List Store.Change) :
    ∃ changes, request.AsksFor changes ∧
      site.respond backend.recorded request (state, calls) =
        ((site.respond backend request state).1, (site.respond backend request state).2,
          calls ++ changes) := by
  by_cases draftSubmitted : ∃ draft, request.SubmitsDraft draft
  · rcases draftSubmitted with ⟨draft, submits⟩
    cases filled : draft.isFilled with
    | false =>
        refine ⟨[], .nothing ?_ fun key => submits.not_submitsKey, ?_⟩
        · intro other again
          rw [← submits.draft_eq again, filled]
        · rw [site.respond_of_unfilled _ _ submits filled,
            site.respond_of_unfilled _ _ submits filled, List.append_nil]
          rfl
    | true =>
        refine ⟨[.add draft.trimmed], .add submits filled, ?_⟩
        rw [site.respond_of_filled _ _ submits filled, site.respond_of_filled _ _ submits filled]
        rfl
  · have noDraft : ∀ draft, ¬ request.SubmitsDraft draft := fun draft submits =>
      draftSubmitted ⟨draft, submits⟩
    by_cases keySubmitted : ∃ key, request.SubmitsKey key
    · rcases keySubmitted with ⟨key, submits⟩
      refine ⟨[.delete key], .delete submits, ?_⟩
      rw [site.respond_of_submitsKey _ _ submits, site.respond_of_submitsKey _ _ submits]
      rfl
    · have noKey : ∀ key, ¬ request.SubmitsKey key := fun key submits =>
        keySubmitted ⟨key, submits⟩
      refine ⟨[], .nothing (fun draft submits => (noDraft draft submits).elim) noKey, ?_⟩
      rw [respond_eq, respond_eq, List.append_nil]
      rcases site.answer_of_submitsNothing noDraft noKey with ⟨answer, -, eq⟩ | ⟨query, eq⟩
      · rw [eq, eq]
        rfl
      · rw [eq, eq, showAccount_eq, showAccount_eq]
        rfl

/-- A run over a recorded backend gives the responses of the run over the backend. -/
theorem respondAll_recorded (requests : List Request) (state : σ) (calls : List Store.Change) :
    (site.respondAll backend.recorded requests (state, calls)).1 =
      (site.respondAll backend requests state).1 := by
  induction requests generalizing state calls with
  | nil => rfl
  | cons request requests ih =>
      rcases site.respond_recorded backend request state calls with ⟨changes, -, recorded⟩
      rw [respondAll_cons, respondAll_cons, recorded]
      simp only [ih]

/-! ## The pages of refused keys -/

theorem content_addAnswer_false (listed : Option (List Key)) (key : Key) :
    (Content.read (site.addAnswer listed key false).response.body).flashes =
        ["Could not add the SSH key"] ∧
      (Content.read (site.addAnswer listed key false).response.body).pane =
        .keys (listed.getD []) (some ⟨.ofKey key, "", ""⟩) := by
  have body : (site.addAnswer listed key false).response.body =
      (site.formPanel listed ⟨.ofKey key, {}⟩ ["Could not add the SSH key"]).render := rfl
  rw [body]
  constructor
  · rw [flashes_read_render]
    rfl
  · rw [pane_read_render _ rfl]
    rfl

/-! ## Runs over any backend -/

/-- In a run over any backend each request asks for at most one change, to add the trimmed key of a
filled draft or to delete the key that was submitted, and its response follows what the backend
says to that. -/
theorem history_follows_backend (requests : List Request) (state : σ) :
    let history := site.history backend.recorded requests (state, [])
    history.map (·.request) = requests ∧
      history.map (·.response) = (site.respondAll backend requests state).1 ∧
      history.map (·.before) ++ [(site.respondAll backend.recorded requests (state, [])).2] =
        (state, []) :: history.map (·.after) ∧
      ∀ exchange ∈ history, ∃ changes,
        exchange.after.2 = exchange.before.2 ++ changes ∧
        (∀ key, changes = [.add key] ↔
          ∃ draft, exchange.request.SubmitsDraft draft ∧ draft.isFilled = true ∧
            key = ⟨Text.trim draft.name, Text.trim draft.text⟩) ∧
        (∀ key, changes = [.delete key] ↔ exchange.request.SubmitsKey key) ∧
        (changes = [] ↔
          (∀ draft, exchange.request.SubmitsDraft draft → draft.isFilled = false) ∧
            ∀ key, ¬ exchange.request.SubmitsKey key) ∧
        (∀ key, changes = [.add key] →
          let listing := backend.list exchange.before.1
          let change := backend.change (.add key) listing.2
          exchange.after.1 = change.2 ∧
            (change.1 = true → exchange.response.RedirectsTo "/account?tab=ssh-keys") ∧
            (change.1 = false →
              exchange.response.status = 422 ∧
                (Content.read exchange.response.body).flashes = ["Could not add the SSH key"] ∧
                (Content.read exchange.response.body).pane =
                  .keys (listing.1.getD []) (some ⟨⟨key.name, key.text⟩, "", ""⟩))) ∧
        (∀ key, changes = [.delete key] →
          let change := backend.change (.delete key) exchange.before.1
          exchange.after.1 = change.2 ∧
            (change.1 = true → exchange.response.RedirectsTo "/account?tab=ssh-keys") ∧
            (change.1 = false →
              exchange.response.RedirectsTo
                "/account?tab=ssh-keys&notice=delete-failed")) := by
  refine ⟨site.history_requests _ _ _, ?_, site.history_states _ _ _, ?_⟩
  · rw [history_responses, respondAll_recorded]
  apply site.forall_mem_history
  rintro request ⟨before, calls⟩
  rcases site.respond_recorded backend request before calls with ⟨changes, asks, recorded⟩
  rw [exchange, recorded]
  refine ⟨changes, rfl, asks.eq_add_iff, asks.eq_delete_iff, asks.eq_nil_iff, ?_, ?_⟩
  · intro key asksAdd
    rcases (asks.eq_add_iff key).mp asksAdd with ⟨draft, submits, filled, rfl⟩
    rw [site.respond_of_filled backend before submits filled]
    refine ⟨rfl, ?_, ?_⟩
    · intro accepted
      rw [accepted]
      exact redirectsTo_seeOther "/account?tab=ssh-keys"
    · intro refused
      rw [refused]
      exact ⟨rfl, site.content_addAnswer_false _ _⟩
  · intro key asksDelete
    have submits := (asks.eq_delete_iff key).mp asksDelete
    rw [site.respond_of_submitsKey backend before submits]
    refine ⟨rfl, ?_, ?_⟩
    · intro accepted
      rw [accepted]
      exact redirectsTo_seeOther "/account?tab=ssh-keys"
    · intro refused
      rw [refused]
      exact redirectsTo_seeOther "/account?tab=ssh-keys&notice=delete-failed"

/-- A backend that lists nothing and refuses every key is asked once, and the trimmed key is shown
again. -/
theorem history_follows_refusing_backend :
    let site : Site := { profile := {} }
    let form : Form := ⟨"/account/ssh-keys", [("name", "\u00a0desk "), ("key", "ssh-rsa <A>&+%\n")]⟩
    let key : Key := ⟨"desk", "ssh-rsa <A>&+%"⟩
    let exchange := site.exchange Backend.scripted.recorded form.submission ({}, [])
    exchange ∈ site.history Backend.scripted.recorded [form.submission] ({}, []) ∧
      exchange.after.2 = [.add key] ∧ exchange.response.status = 422 ∧
        (Content.read exchange.response.body).flashes = ["Could not add the SSH key"] ∧
        (Content.read exchange.response.body).pane =
          .keys [] (some ⟨⟨key.name, key.text⟩, "", ""⟩) := by
  intro site form key exchange
  have member : exchange ∈
      site.history Backend.scripted.recorded [form.submission] ({}, []) := List.mem_cons_self
  have submits : form.submission.SubmitsDraft ⟨"\u00a0desk ", "ssh-rsa <A>&+%\n"⟩ :=
    (Request.submits_submission form).submitsDraft (by decide) rfl rfl
  obtain ⟨changes, grown, adds, -, -, answersAdd, -⟩ :=
    (site.history_follows_backend Backend.scripted _ _).2.2.2 exchange member
  have asked : changes = [.add key] := (adds key).mpr ⟨_, submits, by decide, by decide⟩
  have answered := (answersAdd key asked).2.2 rfl
  rw [asked] at grown
  exact ⟨member, grown, answered⟩

end Site

end AccountPanel
