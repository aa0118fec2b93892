import AccountPanel.Site

/-!
# Histories

The exchanges of a run: each request with the response to it, and with the state of the backend
before and behind it. What one exchange does for every request and every state holds of each
exchange of every run.
-/

namespace AccountPanel

/-- A request that was answered, between the states of the backend before and behind it. -/
structure Exchange (σ : Type) where
  before : σ
  request : Http.Request
  response : Http.Response
  after : σ

namespace Site

variable {σ : Type} (site : Site) (backend : Backend σ)

/-- The exchange in which a request is answered. -/
def exchange (request : Http.Request) (state : σ) : Exchange σ where
  before := state
  request := request
  response := (site.respond backend request state).1
  after := (site.respond backend request state).2

/-- The exchanges of a run from a state. -/
def history : List Http.Request → σ → List (Exchange σ)
  | [], _ => []
  | request :: requests, state =>
      let first := site.exchange backend request state
      first :: history requests first.after

theorem history_cons (request : Http.Request) (requests : List Http.Request) (state : σ) :
    site.history backend (request :: requests) state =
      site.exchange backend request state ::
        site.history backend requests (site.respond backend request state).2 := rfl

theorem respondAll_cons (request : Http.Request) (requests : List Http.Request) (state : σ) :
    site.respondAll backend (request :: requests) state =
      let answered := site.respond backend request state
      let others := site.respondAll backend requests answered.2
      (answered.1 :: others.1, others.2) := by
  rw [respondAll, List.mapM_cons]
  rfl

/-- A history has one exchange for each request, in order. -/
theorem history_requests (requests : List Http.Request) (state : σ) :
    (site.history backend requests state).map (·.request) = requests := by
  induction requests generalizing state with
  | nil => rfl
  | cons request requests ih =>
      rw [history_cons, List.map_cons, ih]
      rfl

/-- The responses of a history are those of the run. -/
theorem history_responses (requests : List Http.Request) (state : σ) :
    (site.history backend requests state).map (·.response) =
      (site.respondAll backend requests state).1 := by
  induction requests generalizing state with
  | nil => rfl
  | cons request requests ih =>
      rw [history_cons, List.map_cons, ih, respondAll_cons]
      rfl

/-- Each exchange starts where the one before it ended, the first one at the start of the run, and
the run ends where the last one did. -/
theorem history_states (requests : List Http.Request) (state : σ) :
    (site.history backend requests state).map (·.before) ++
        [(site.respondAll backend requests state).2] =
      state :: (site.history backend requests state).map (·.after) := by
  induction requests generalizing state with
  | nil => rfl
  | cons request requests ih =>
      rw [history_cons, List.map_cons, List.map_cons, List.cons_append, respondAll_cons, ih]
      rfl

/-- What holds of every exchange there can be holds of each exchange of a run. -/
theorem forall_mem_history {motive : Exchange σ → Prop}
    (each : ∀ request state, motive (site.exchange backend request state))
    (requests : List Http.Request) (state : σ) :
    ∀ exchange ∈ site.history backend requests state, motive exchange := by
  induction requests generalizing state with
  | nil =>
      intro exchange member
      cases member
  | cons request requests ih =>
      intro exchange member
      rw [history_cons] at member
      rcases List.mem_cons.mp member with rfl | later
      · exact each request state
      · exact ih (site.respond backend request state).2 exchange later

end Site

end AccountPanel
