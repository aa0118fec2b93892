import AccountPanel.Proofs.Site.Outcome
import Mathlib.Data.Fintype.Basic
import Mathlib.Data.List.FinRange

/-!
# Requests in flight

Requests that are answered at once over one store. A request that adds a key gives way to others
after the keys were listed, so its list may be out of date when the key reaches the store; every
other request is answered in one step. A journal of the changes, each with the request that asked
for it, tells in which order the requests could have come one by one.
-/

namespace AccountPanel

open Http

/-! ## Steps of a request -/

/-- The draft of a request to add a key, if both of its texts are filled in. -/
def Http.Request.filledDraft? (request : Request) : Option Draft :=
  if request.method = "POST" ∧ request.path = "/account/ssh-keys" then
    request.draft.toOption.filter Draft.isFilled
  else none

theorem Http.Request.filledDraft?_eq_some_iff {request : Request} {draft : Draft} :
    request.filledDraft? = some draft ↔ request.SubmitsDraft draft ∧ draft.isFilled = true := by
  rw [filledDraft?]
  constructor
  · intro found
    split at found
    next posted =>
      rcases Option.filter_eq_some_iff.mp found with ⟨decoded, filled⟩
      cases read : request.draft with
      | error cause =>
          rw [read] at decoded
          cases decoded
      | ok other =>
          rw [read] at decoded
          cases decoded
          exact ⟨⟨posted.1, posted.2, read⟩, filled⟩
    · cases found
  · rintro ⟨submits, filled⟩
    rw [if_pos ⟨submits.method, submits.path⟩, submits.draft]
    exact Option.filter_eq_some_iff.mpr ⟨rfl, filled⟩

/-- How far a request has come. -/
inductive Stage where
  | arrived
  /-- The keys were listed, and the draft is still to be added. -/
  | listed (keys : Option (List Key)) (draft : Draft)
  | answered (response : Response)

namespace Stage

/-- The response, once there is one. -/
def response? : Stage → Option Response
  | .answered response => some response
  | _ => none

/-- The greatest number of steps that are left. -/
def left : Stage → Nat
  | .arrived => 2
  | .listed _ _ => 1
  | .answered _ => 0

end Stage

/-- The same backend, with a journal of the changes and the answers to them. -/
def Backend.journaled {σ : Type} (backend : Backend σ) : Backend (σ × List Store.Entry) where
  list := fun (state, entries) =>
    let (keys, state) := backend.list state
    (keys, state, entries)
  change := fun change (state, entries) =>
    let (accepted, state) := backend.change change state
    (accepted, state, entries ++ [⟨change, accepted⟩])

namespace Site

variable (site : Site)

section Steps

variable {σ : Type} (backend : Backend σ) (request : Request) (state : σ)

/-- The next step of a request: the keys are listed, and then the draft is added. Where there is
nothing to add, the request is answered at once. -/
def advance : Stage → StateM σ Stage
  | .arrived =>
    match request.filledDraft? with
    | some draft => do
      let keys ← backend.list
      return .listed keys draft
    | none => do
      let response ← site.respond backend request
      return .answered response
  | .listed keys draft => do
    let answer ← site.finishAdd backend keys draft
    return .answered answer.response
  | .answered response => return .answered response

theorem advance_arrived_of_none (adds : request.filledDraft? = none) :
    site.advance backend request .arrived state =
      (.answered (site.respond backend request state).1,
        (site.respond backend request state).2) := by
  simp only [advance, adds, bind_apply]
  rfl

theorem advance_arrived_of_some {draft : Draft} (adds : request.filledDraft? = some draft) :
    site.advance backend request .arrived state =
      (.listed (backend.list state).1 draft, (backend.list state).2) := by
  simp only [advance, adds, bind_apply]
  rfl

theorem advance_listed (keys : Option (List Key)) (draft : Draft) :
    site.advance backend request (.listed keys draft) state =
      (.answered (site.finishAdd backend keys draft state).1.response,
        (site.finishAdd backend keys draft state).2) := by
  rw [advance, bind_apply]
  rfl

theorem advance_answered (response : Response) :
    site.advance backend request (.answered response) state = (.answered response, state) := rfl

/-- Two steps at a stretch answer a request. -/
theorem advance_advance :
    (site.advance backend request .arrived >>= site.advance backend request) state =
      (.answered (site.respond backend request state).1,
        (site.respond backend request state).2) := by
  rw [bind_apply]
  cases adds : request.filledDraft? with
  | none => rw [site.advance_arrived_of_none backend request state adds, advance_answered]
  | some draft =>
      rcases Request.filledDraft?_eq_some_iff.mp adds with ⟨submits, -⟩
      rw [site.advance_arrived_of_some backend request state adds, advance_listed,
        site.respond_of_method backend state (by simp [submits.method]),
        site.answer_of_submitsDraft backend submits, addKey_eq]

/-- A step leaves less to do. -/
theorem left_advance (stage : Stage) :
    (site.advance backend request stage state).1.left ≤ stage.left - 1 := by
  cases stage with
  | arrived =>
      cases adds : request.filledDraft? with
      | none =>
          rw [site.advance_arrived_of_none backend request state adds]
          exact Nat.zero_le _
      | some draft =>
          rw [site.advance_arrived_of_some backend request state adds]
          exact Nat.le_refl _
  | listed keys draft =>
      rw [advance_listed]
      exact Nat.le_refl _
  | answered response =>
      rw [advance_answered]
      exact Nat.le_refl _

end Steps

/-! ## What a step does to a store -/

/-- A request was answered by this response, and these entries were made for it. -/
inductive Answered (request : Request) : Response → List Store.Entry → Prop where
  | changed {response : Response} {entry : Store.Entry} (asks : request.AsksFor [entry.change])
      (told : response.outcome = entry.outcome) : Answered request response [entry]
  | unchanged {response : Response} (asks : request.AsksFor [])
      (told : ∀ store, response.outcome =
        (site.respond Backend.inMemory request store).1.outcome) : Answered request response []

/-- A request has come as far as this stage, and these entries were made for it. -/
inductive Reached (request : Request) : Stage → List Store.Entry → Prop where
  | arrived : Reached request .arrived []
  | listed {keys : Option (List Key)} {draft : Draft} (submits : request.SubmitsDraft draft)
      (filled : draft.isFilled = true) : Reached request (.listed keys draft) []
  | answered {response : Response} {entries : List Store.Entry}
      (answered : site.Answered request response entries) :
      Reached request (.answered response) entries

section Change

variable {request : Request}

/-- A request that is answered in one step makes the entry of the change it asks for. -/
theorem answered_respond (request : Request) (store : Store) :
    let done := site.respond Backend.inMemory.journaled request (store, [])
    site.Answered request done.1 done.2.2 ∧ Store.Journal store done.2.2 done.2.1 := by
  have quiet : ∀ state, (Backend.inMemory.journaled.list state).2 = state := fun _ => rfl
  intro done
  rcases site.respond_recorded Backend.inMemory request store [] with ⟨changes, asks, -⟩
  cases asks with
  | @add draft submits filled =>
      have asks : request.AsksFor [.add draft.trimmed] := .add submits filled
      rcases site.respond_of_asksFor _ (store, []) quiet asks with ⟨told, next⟩
      have left : done.2 = ((store.apply (.add draft.trimmed)).2,
          [store.entry (.add draft.trimmed)]) := next
      rw [left]
      exact ⟨.changed asks told, .single store _⟩
  | @delete key submits =>
      have asks : request.AsksFor [.delete key] := .delete submits
      rcases site.respond_of_asksFor _ (store, []) quiet asks with ⟨told, next⟩
      have left : done.2 = ((store.apply (.delete key)).2, [store.entry (.delete key)]) := next
      rw [left]
      exact ⟨.changed asks told, .single store _⟩
  | nothing noDraft noKey =>
      have asks : request.AsksFor [] := .nothing noDraft noKey
      have left : done.2 = (store, []) := site.respond_of_asksForNothing _ (store, []) quiet asks
      rw [left]
      exact ⟨.unchanged asks fun _ => site.outcome_respond_eq _ _ _ _ asks, .nil store⟩

/-- The keys that were listed have no part in what the second step of an add comes to. -/
theorem answered_finishAdd {draft : Draft} (submits : request.SubmitsDraft draft)
    (filled : draft.isFilled = true) (keys : Option (List Key)) (store : Store) :
    let done := site.finishAdd Backend.inMemory.journaled keys draft (store, [])
    site.Answered request done.1.response done.2.2 ∧ Store.Journal store done.2.2 done.2.1 := by
  intro done
  have eq : done = (site.addAnswer keys draft.trimmed (store.apply (.add draft.trimmed)).1,
      (store.apply (.add draft.trimmed)).2, [store.entry (.add draft.trimmed)]) :=
    site.finishAdd_of_filled Backend.inMemory.journaled (store, []) filled rfl
  rw [eq]
  exact ⟨.changed (.add submits filled) (site.outcome_addAnswer _ _ _), .single store _⟩

/-- A step brings a request further, and the entries it makes are those of its changes. -/
theorem reached_advance {stage : Stage} {entries : List Store.Entry}
    (reached : site.Reached request stage entries) (store : Store) :
    let moved := site.advance Backend.inMemory.journaled request stage (store, [])
    site.Reached request moved.1 (entries ++ moved.2.2) ∧
      Store.Journal store moved.2.2 moved.2.1 := by
  intro moved
  cases reached with
  | arrived =>
      rw [List.nil_append]
      cases adds : request.filledDraft? with
      | none =>
          have moves : moved = _ :=
            site.advance_arrived_of_none Backend.inMemory.journaled request (store, []) adds
          rcases site.answered_respond request store with ⟨answered, journal⟩
          rw [moves]
          dsimp only
          exact ⟨.answered answered, journal⟩
      | some draft =>
          have moves : moved = _ :=
            site.advance_arrived_of_some Backend.inMemory.journaled request (store, []) adds
          rcases Request.filledDraft?_eq_some_iff.mp adds with ⟨submits, filled⟩
          rw [moves]
          exact ⟨.listed submits filled, .nil store⟩
  | @listed keys draft submits filled =>
      have moves : moved = _ :=
        site.advance_listed Backend.inMemory.journaled request (store, []) keys draft
      rcases site.answered_finishAdd submits filled keys store with ⟨answered, journal⟩
      rw [moves, List.nil_append]
      dsimp only
      exact ⟨.answered answered, journal⟩
  | @answered response entries answered =>
      have moves : moved = _ :=
        site.advance_answered Backend.inMemory.journaled request (store, []) response
      rw [moves, List.append_nil]
      exact ⟨.answered answered, .nil store⟩

end Change

end Site

/-! ## Interleavings -/

/-- An entry with the request that it was made for. -/
structure Commit (n : Nat) extends Store.Entry where
  index : Fin n
  deriving Repr, DecidableEq

/-- Requests over one store, each at its stage, with the changes that reached the store so far. -/
structure Flight (n : Nat) where
  stages : Fin n → Stage
  store : Store
  commits : List (Commit n)

namespace Flight

variable {n : Nat} (flight : Flight n)

/-- No request has taken a step yet. -/
def start (store : Store) : Flight n := ⟨fun _ => .arrived, store, []⟩

/-- The entries made for one request. -/
def entriesOf (index : Fin n) : List Store.Entry :=
  (flight.commits.filter (·.index == index)).map (·.toEntry)

/-- The response to a request, once there is one. -/
def response? (index : Fin n) : Option Response := (flight.stages index).response?

end Flight

namespace Site

variable (site : Site) {n : Nat} (requests : Fin n → Request)

/-- One of the requests takes its next step. -/
def move (flight : Flight n) (index : Fin n) : Flight n :=
  let moved := site.advance Backend.inMemory.journaled (requests index) (flight.stages index)
    (flight.store, [])
  { stages := Function.update flight.stages index moved.1
    store := moved.2.1
    commits := flight.commits ++ moved.2.2.map (⟨·, index⟩) }

/-- The requests take steps in the order in which a schedule names them. -/
def interleave (store : Store) (schedule : List (Fin n)) : Flight n :=
  schedule.foldl (site.move requests) (Flight.start store)

/-- What holds at every moment: each request has come as far as its stage tells, and the commits are
the changes that led from the first store to the present one. -/
structure Sound (store : Store) (flight : Flight n) : Prop where
  reached : ∀ index, site.Reached (requests index) (flight.stages index) (flight.entriesOf index)
  journal : Store.Journal store (flight.commits.map (·.toEntry)) flight.store

variable {requests}

/-- Commits of one request are entries of that request alone. -/
theorem entriesOf_commits (entries : List Store.Entry) (mover index : Fin n) :
    ((entries.map fun entry => (⟨entry, mover⟩ : Commit n)).filter (·.index == index)).map
      (·.toEntry) = if mover = index then entries else [] := by
  rw [List.filter_map, List.map_map]
  refine (List.map_id _).trans ?_
  split
  · next same =>
      exact List.filter_eq_self.mpr fun _ _ => beq_iff_eq.mpr same
  · next different =>
      exact List.filter_eq_nil_iff.mpr fun _ _ same => different (beq_iff_eq.mp same)

theorem stages_move (flight : Flight n) (mover : Fin n) :
    (site.move requests flight mover).stages =
      Function.update flight.stages mover
        (site.advance Backend.inMemory.journaled (requests mover) (flight.stages mover)
          (flight.store, [])).1 := rfl

/-- A step of one request adds to the entries of that request alone. -/
theorem entriesOf_move (flight : Flight n) (mover index : Fin n) :
    (site.move requests flight mover).entriesOf index =
      flight.entriesOf index ++
        if mover = index then
          (site.advance Backend.inMemory.journaled (requests mover) (flight.stages mover)
            (flight.store, [])).2.2
        else [] := by
  rw [Flight.entriesOf, move, List.filter_append, List.map_append, entriesOf_commits]
  rfl

/-- Every step keeps what holds at every moment. -/
theorem sound_move {store : Store} {flight : Flight n} (sound : site.Sound requests store flight)
    (mover : Fin n) : site.Sound requests store (site.move requests flight mover) := by
  rcases site.reached_advance (sound.reached mover) flight.store with ⟨reached, journal⟩
  constructor
  · intro index
    rw [entriesOf_move, stages_move]
    by_cases same : mover = index
    · subst same
      rw [Function.update_self, if_pos rfl]
      exact reached
    · rw [Function.update_of_ne (Ne.symm same), if_neg same, List.append_nil]
      exact sound.reached index
  · rw [move, List.map_append, List.map_map]
    refine sound.journal.append ?_
    rw [show (fun commit : Commit n => commit.toEntry) ∘ (⟨·, mover⟩) = id from rfl, List.map_id]
    exact journal

/-- What holds at every moment holds after every schedule. -/
theorem sound_interleave (store : Store) (schedule : List (Fin n)) :
    site.Sound requests store (site.interleave requests store schedule) := by
  rw [interleave]
  have started : site.Sound requests store (Flight.start store) := ⟨fun _ => .arrived, .nil store⟩
  -- The moment that the schedule starts from is left open, since it changes along the schedule.
  generalize Flight.start store = flight at started
  induction schedule generalizing flight with
  | nil => exact started
  | cons mover schedule ih => exact ih _ (site.sound_move started mover)

section Left

variable (requests)

theorem left_move (flight : Flight n) (mover index : Fin n) :
    ((site.move requests flight mover).stages index).left ≤
      (flight.stages index).left - [mover].count index := by
  rw [stages_move, List.count_singleton]
  by_cases same : mover = index
  · subst same
    rw [Function.update_self, if_pos (beq_self_eq_true mover)]
    exact site.left_advance _ _ _ _
  · rw [Function.update_of_ne (Ne.symm same), if_neg (by simpa using same)]
    exact Nat.le_refl _

/-- Each step of a request leaves less to do, whatever the others do meanwhile. -/
theorem left_interleave (store : Store) (schedule : List (Fin n)) (index : Fin n) :
    ((site.interleave requests store schedule).stages index).left ≤
      2 - schedule.count index := by
  have stages : ∀ flight : Flight n,
      ((schedule.foldl (site.move requests) flight).stages index).left ≤
        (flight.stages index).left - schedule.count index := by
    induction schedule with
    | nil => exact fun _ => Nat.le_refl _
    | cons mover schedule ih =>
        intro flight
        have first := site.left_move requests flight mover index
        have rest := ih (site.move requests flight mover)
        rw [List.count_singleton] at first
        rw [List.foldl_cons, List.count_cons]
        omega
  exact stages (Flight.start store)

end Left

/-- A request that took two steps is answered. -/
theorem answered_of_two_le {store : Store} {schedule : List (Fin n)} {index : Fin n}
    (twice : 2 ≤ schedule.count index) :
    ((site.interleave requests store schedule).response? index).isSome = true := by
  have left := site.left_interleave requests store schedule index
  rw [Flight.response?]
  cases stage : (site.interleave requests store schedule).stages index with
  | answered => rfl
  | arrived | listed =>
      rw [stage] at left
      simp only [Stage.left] at left
      omega

end Site

end AccountPanel
