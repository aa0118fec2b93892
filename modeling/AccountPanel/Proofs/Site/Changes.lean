import AccountPanel.Proofs.Site.Answer
import AccountPanel.Proofs.Site.History
import AccountPanel.Proofs.Store

/-!
# What an exchange does to a store

Over a store in memory an exchange adds one key, removes one key or keeps every key. Which of the
three it was can be told from the request and the response alone: a change is answered by the plain
redirection to the tab of the keys, and nothing else is answered so.
-/

namespace AccountPanel

open Http

namespace Exchange

variable (exchange : Exchange Store)

/-- The exchange adds the trimmed draft of its request, which names no stored key, at the end. -/
structure Adds (draft : Draft) : Prop where
  decoded : exchange.request.draft = .ok draft
  name : Text.trim draft.name ≠ ""
  text : Text.trim draft.text ≠ ""
  fresh : ∀ stored ∈ exchange.before.keys, stored.name ≠ Text.trim draft.name
  keys : exchange.after.keys =
    exchange.before.keys ++ [⟨Text.trim draft.name, Text.trim draft.text⟩]

/-- The exchange removes the first record equal to the key of its request. -/
structure Removes (key : Key) : Prop where
  decoded : exchange.request.key = .ok key
  keys : ∃ front behind, exchange.before.keys = front ++ key :: behind ∧ key ∉ front ∧
    exchange.after.keys = front ++ behind

/-- The exchange adds a key. -/
def Added : Prop := ∃ draft, exchange.Adds draft

/-- The exchange removes a key. -/
def Removed : Prop := ∃ key, exchange.Removes key

/-- The exchange leaves the keys as they were. -/
def Kept : Prop := exchange.after = exchange.before

/-- The response is one of those to requests that change nothing. -/
def AnsweredWithoutChange : Prop :=
  exchange.response.status ∈ Site.plainStatuses ∨ exchange.response.RedirectsTo "/account" ∨
    exchange.response.RedirectsTo "/account?tab=ssh-keys&notice=delete-failed"

/-- The ways an exchange goes, each with what it does to the store and with its response. -/
inductive Outcome : Prop where
  | added {draft : Draft} (submits : exchange.request.SubmitsDraft draft)
      (adds : exchange.Adds draft)
      (answered : exchange.response.RedirectsTo "/account?tab=ssh-keys") : Outcome
  | removed {key : Key} (submits : exchange.request.SubmitsKey key) (removes : exchange.Removes key)
      (answered : exchange.response.RedirectsTo "/account?tab=ssh-keys") : Outcome
  | kept (keeps : exchange.Kept) (answered : exchange.AnsweredWithoutChange) : Outcome

variable {exchange}

/-! ## The three changes exclude each other -/

theorem Adds.length_keys {draft : Draft} (adds : exchange.Adds draft) :
    exchange.after.keys.length = exchange.before.keys.length + 1 := by
  rw [adds.keys, List.length_append, List.length_singleton]

theorem Removes.length_keys {key : Key} (removes : exchange.Removes key) :
    exchange.before.keys.length = exchange.after.keys.length + 1 := by
  rcases removes.keys with ⟨front, behind, before, -, after⟩
  rw [before, after, List.length_append, List.length_append, List.length_cons, Nat.add_assoc]

theorem Kept.length_keys (kept : exchange.Kept) :
    exchange.after.keys.length = exchange.before.keys.length := by
  rw [kept]

theorem Added.not_removed (added : exchange.Added) : ¬ exchange.Removed := by
  intro removed
  rcases removed with ⟨key, removes⟩
  rcases added with ⟨draft, adds⟩
  have longer := adds.length_keys
  have shorter := removes.length_keys
  omega

theorem Added.not_kept (added : exchange.Added) : ¬ exchange.Kept := by
  intro kept
  rcases added with ⟨draft, adds⟩
  have longer := adds.length_keys
  have same := kept.length_keys
  omega

theorem Removed.not_kept (removed : exchange.Removed) : ¬ exchange.Kept := by
  intro kept
  rcases removed with ⟨key, removes⟩
  have shorter := removes.length_keys
  have same := kept.length_keys
  omega

/-! ## The responses tell the changes apart -/

theorem AnsweredWithoutChange.not_redirectsTo (answered : exchange.AnsweredWithoutChange) :
    ¬ exchange.response.RedirectsTo "/account?tab=ssh-keys" := by
  intro redirects
  rcases answered with plain | account | refused
  · rw [redirects.1] at plain
    exact absurd plain (by decide)
  · exact absurd (redirects.location_eq account) (by decide)
  · exact absurd (redirects.location_eq refused) (by decide)

/-- An exchange adds a key exactly if its response says so. -/
theorem Outcome.added_iff (outcome : exchange.Outcome) :
    exchange.Added ↔
      exchange.request.method = "POST" ∧ exchange.request.path = "/account/ssh-keys" ∧
        exchange.response.RedirectsTo "/account?tab=ssh-keys" := by
  cases outcome with
  | added submits adds answered =>
      exact iff_of_true ⟨_, adds⟩ ⟨submits.method, submits.path, answered⟩
  | removed submits removes answered =>
      constructor
      · intro added
        exact (added.not_removed ⟨_, removes⟩).elim
      · intro posted
        rcases posted with ⟨-, path, -⟩
        have same := submits.path.symm.trans path
        exact absurd same (by decide)
  | kept keeps answered =>
      constructor
      · intro added
        exact (added.not_kept keeps).elim
      · intro posted
        rcases posted with ⟨-, -, redirects⟩
        exact (answered.not_redirectsTo redirects).elim

/-- An exchange removes a key exactly if its response says so. -/
theorem Outcome.removed_iff (outcome : exchange.Outcome) :
    exchange.Removed ↔
      exchange.request.method = "POST" ∧ exchange.request.path = "/account/ssh-keys/delete" ∧
        exchange.response.RedirectsTo "/account?tab=ssh-keys" := by
  cases outcome with
  | added submits adds answered =>
      constructor
      · intro removed
        exact (Added.not_removed ⟨_, adds⟩ removed).elim
      · intro posted
        rcases posted with ⟨-, path, -⟩
        have same := submits.path.symm.trans path
        exact absurd same (by decide)
  | removed submits removes answered =>
      exact iff_of_true ⟨_, removes⟩ ⟨submits.method, submits.path, answered⟩
  | kept keeps answered =>
      constructor
      · intro removed
        exact (removed.not_kept keeps).elim
      · intro posted
        rcases posted with ⟨-, -, redirects⟩
        exact (answered.not_redirectsTo redirects).elim

/-- An exchange keeps every key exactly if it has one of the other responses. -/
theorem Outcome.kept_iff (outcome : exchange.Outcome) :
    exchange.Kept ↔ exchange.AnsweredWithoutChange := by
  cases outcome with
  | added submits adds answered =>
      exact iff_of_false (Added.not_kept ⟨_, adds⟩) fun plain => plain.not_redirectsTo answered
  | removed submits removes answered =>
      exact iff_of_false (Removed.not_kept ⟨_, removes⟩) fun plain =>
        plain.not_redirectsTo answered
  | kept keeps answered => exact iff_of_true keeps answered

/-- An exchange does exactly one of the three. -/
theorem Outcome.exactly_one (outcome : exchange.Outcome) :
    exchange.Added ∧ ¬ exchange.Removed ∧ ¬ exchange.Kept ∨
      ¬ exchange.Added ∧ exchange.Removed ∧ ¬ exchange.Kept ∨
        ¬ exchange.Added ∧ ¬ exchange.Removed ∧ exchange.Kept := by
  cases outcome with
  | added submits adds answered =>
      have added : exchange.Added := ⟨_, adds⟩
      exact .inl ⟨added, added.not_removed, added.not_kept⟩
  | removed submits removes answered =>
      have removed : exchange.Removed := ⟨_, removes⟩
      exact .inr (.inl ⟨fun added => added.not_removed removed, removed, removed.not_kept⟩)
  | kept keeps answered =>
      exact .inr (.inr ⟨fun added => added.not_kept keeps, fun removed => removed.not_kept keeps,
        keeps⟩)

end Exchange

namespace Site

variable (site : Site)

/-! ## Every exchange over a store -/

theorem outcome_of_filled {request : Request} {draft : Draft} (store : Store)
    (submits : request.SubmitsDraft draft) (filled : draft.isFilled = true) :
    (site.exchange Backend.inMemory request store).Outcome := by
  rw [exchange, site.respond_of_filled Backend.inMemory store submits filled]
  by_cases taken : ∃ stored ∈ store.keys, stored.name = draft.trimmed.name
  · have change : Backend.inMemory.change (.add draft.trimmed) (Backend.inMemory.list store).2 =
        (false, store) := store.add_of_taken taken
    rw [change]
    exact .kept rfl (.inl (by simp [addAnswer, Answer.response, plainStatuses]))
  · have fresh : ∀ stored ∈ store.keys, stored.name ≠ draft.trimmed.name :=
      fun stored member same => taken ⟨stored, member, same⟩
    have change : Backend.inMemory.change (.add draft.trimmed) (Backend.inMemory.list store).2 =
        (true, ⟨store.keys ++ [draft.trimmed]⟩) := store.add_of_fresh fresh
    have texts := draft.isFilled_iff.mp filled
    rw [change]
    exact .added submits ⟨submits.draft, texts.1, texts.2, fresh, rfl⟩ (redirectsTo_seeOther _)

theorem outcome_of_submitsKey {request : Request} {key : Key} (store : Store)
    (submits : request.SubmitsKey key) :
    (site.exchange Backend.inMemory request store).Outcome := by
  rw [exchange, site.respond_of_submitsKey Backend.inMemory store submits]
  by_cases member : key ∈ store.keys
  · rcases store.delete_of_mem member with ⟨front, behind, split, absent, deleted⟩
    have change : Backend.inMemory.change (.delete key) store = (true, ⟨front ++ behind⟩) :=
      deleted
    rw [change]
    exact .removed submits ⟨submits.key, front, behind, split, absent, rfl⟩
      (redirectsTo_seeOther _)
  · have change : Backend.inMemory.change (.delete key) store = (false, store) :=
      store.delete_of_notMem member
    rw [change]
    exact .kept rfl (.inr (.inr (redirectsTo_seeOther _)))

theorem outcome_exchange (request : Request) (store : Store) :
    (site.exchange Backend.inMemory request store).Outcome := by
  by_cases draftSubmitted : ∃ draft, request.SubmitsDraft draft
  · rcases draftSubmitted with ⟨draft, submits⟩
    cases filled : draft.isFilled with
    | false =>
        rw [exchange, site.respond_of_unfilled Backend.inMemory store submits filled]
        exact .kept rfl (.inl (by simp [Answer.response, plainStatuses]))
    | true => exact site.outcome_of_filled store submits filled
  · by_cases keySubmitted : ∃ key, request.SubmitsKey key
    · rcases keySubmitted with ⟨key, submits⟩
      exact site.outcome_of_submitsKey store submits
    · obtain ⟨state, answered⟩ := site.respond_of_submitsNothing Backend.inMemory store
        (fun draft submits => draftSubmitted ⟨draft, submits⟩)
        (fun key submits => keySubmitted ⟨key, submits⟩)
      apply Exchange.Outcome.kept
      · rcases state with kept | listed
        · exact kept
        · exact listed
      · rcases answered with plain | account
        · exact .inl plain
        · exact .inr (.inl account)

/-- Over a store in memory each exchange of a run adds its trimmed draft, removes the first record
equal to its key, or keeps every key, and its response tells which of the three it was. -/
theorem history_tells_changes (keys : List Key) (requests : List Request) :
    let history := site.history Backend.inMemory requests ⟨keys⟩
    let run := site.respondAll Backend.inMemory requests ⟨keys⟩
    history.map (·.request) = requests ∧ history.map (·.response) = run.1 ∧
      history.map (·.before) ++ [run.2] = ⟨keys⟩ :: history.map (·.after) ∧
      ∀ exchange ∈ history,
        (exchange.Added ∧ ¬ exchange.Removed ∧ ¬ exchange.Kept ∨
          ¬ exchange.Added ∧ exchange.Removed ∧ ¬ exchange.Kept ∨
            ¬ exchange.Added ∧ ¬ exchange.Removed ∧ exchange.Kept) ∧
        (exchange.Added ↔
          exchange.request.method = "POST" ∧ exchange.request.path = "/account/ssh-keys" ∧
            exchange.response.RedirectsTo "/account?tab=ssh-keys") ∧
        (exchange.Removed ↔
          exchange.request.method = "POST" ∧
            exchange.request.path = "/account/ssh-keys/delete" ∧
              exchange.response.RedirectsTo "/account?tab=ssh-keys") ∧
        (exchange.Kept ↔ exchange.AnsweredWithoutChange) ∧
        (exchange.request.method = "HEAD" → exchange.Kept) := by
  refine ⟨site.history_requests _ _ _, site.history_responses _ _ _, site.history_states _ _ _, ?_⟩
  apply site.forall_mem_history
  intro request store
  have outcome := site.outcome_exchange request store
  refine ⟨outcome.exactly_one, outcome.added_iff, outcome.removed_iff, outcome.kept_iff, ?_⟩
  intro head
  cases outcome with
  | added submits => exact absurd (submits.method.symm.trans head) (by decide)
  | removed submits => exact absurd (submits.method.symm.trans head) (by decide)
  | kept keeps => exact keeps

/-- A draft with blanks around its texts is added behind the key that is there. -/
theorem history_tells_changes_of_desk :
    let site : Site := { profile := {} }
    let form : Page.Form :=
      ⟨"/account/ssh-keys", [("name", " desk "), ("key", "ssh-ed25519 A+B%\n")]⟩
    let exchange := site.exchange Backend.inMemory form.submission ⟨[⟨"laptop", "ssh-rsa A"⟩]⟩
    exchange ∈ site.history Backend.inMemory [form.submission] ⟨[⟨"laptop", "ssh-rsa A"⟩]⟩ ∧
      exchange.Added := by
  intro site form exchange
  have member : exchange ∈
      site.history Backend.inMemory [form.submission] ⟨[⟨"laptop", "ssh-rsa A"⟩]⟩ :=
    List.mem_cons_self
  have submits : form.submission.SubmitsDraft ⟨" desk ", "ssh-ed25519 A+B%\n"⟩ :=
    (Request.submits_submission form).submitsDraft (by decide) rfl rfl
  have redirects : exchange.response.RedirectsTo "/account?tab=ssh-keys" := by
    have filled : Draft.isFilled ⟨" desk ", "ssh-ed25519 A+B%\n"⟩ = true := by decide
    change (site.respond Backend.inMemory form.submission _).1.RedirectsTo _
    rw [site.respond_of_filled Backend.inMemory _ submits filled]
    exact redirectsTo_seeOther _
  have told := (site.history_tells_changes _ _).2.2.2 exchange member
  exact ⟨member, told.2.1.mpr ⟨submits.method, submits.path, redirects⟩⟩

end Site

end AccountPanel
