import AccountPanel.Proofs.Page.Openings
import Mathlib.Data.List.DropRight

/-!
# Runs of a panel

What a panel holds after any steps, told by the steps and by the backend's answers to them. A step
together with its answer is an event. The modal and its form follow from the events since the
modal was last closed; the tab, the messages and the calls of the backend follow from the steps.
-/

namespace AccountPanel.Panel

open Markup

/-! ## Steps -/

namespace Step

/-- The tab that a step chooses. -/
def tab? : Step → Option Tab
  | .selectTab tab => some tab
  | .openModal | .showForm _ => some .keys
  | _ => none

/-- The form that a step shows. -/
def form? : Step → Option Modal
  | .showForm form => some form
  | _ => none

/-- The message that a step adds. -/
def message? : Step → Option String
  | .flash message => some message
  | _ => none

/-- The change that a step asks the backend for. -/
def change? : Step → Option Store.Change
  | .change asked => some asked
  | _ => none

/-- Does the step open the modal? -/
def opens : Step → Bool
  | .openModal | .showForm _ => true
  | _ => false

end Step

/-- A step and the backend's answer to it. -/
structure Event where
  step : Step
  answer : Option Bool
  deriving Repr, DecidableEq

/-- Does the event close the modal? To add a key does if the backend accepts it. -/
def Event.closes (event : Event) : Bool :=
  match event.step, event.answer with
  | .closeModal, _ => true
  | .change (.add _), some true => true
  | _, _ => false

theorem Event.not_closes_of_opens {event : Event} (opens : event.step.opens = true) :
    event.closes = false := by
  rcases event with ⟨step, answer⟩
  cases step with
  | openModal | showForm => rfl
  | selectTab | closeModal | flash | basePath | avatar | change => cases opens

/-! ## The modal as a flag and a form -/

/-- A flag that tells whether the modal is shown, and a form. An event sets what it has to, and
nothing but the events ties the form to the flag. -/
structure ModalFields where
  shown : Bool := false
  form : Modal := {}
  deriving Repr, DecidableEq

namespace ModalFields

/-- The fields that the modal of a panel stands for. -/
def ofModal (modal : Option Modal) : ModalFields := ⟨modal.isSome, modal.getD {}⟩

/-- The fields behind an event. -/
def after (fields : ModalFields) (event : Event) : ModalFields :=
  match event.step, event.answer with
  | .openModal, _ => { fields with shown := true }
  | .closeModal, _ => {}
  | .showForm form, _ => { shown := true, form }
  | .change (.add _), some true => {}
  | _, _ => fields

/-- The fields behind events, of which the first finds the modal closed and its form empty. -/
def behind (events : List Event) : ModalFields := events.foldl after {}

theorem behind_concat (events : List Event) (event : Event) :
    behind (events ++ [event]) = (behind events).after event := by
  rw [behind, List.foldl_concat]
  rfl

/-- An event closes the modal, or else it can show the modal or show another form. -/
theorem after_eq (fields : ModalFields) (event : Event) :
    fields.after event =
      if event.closes then {}
      else ⟨event.step.opens || fields.shown, event.step.form?.getD fields.form⟩ := by
  rcases event with ⟨step, answer⟩
  cases step with
  | selectTab | openModal | closeModal | showForm | flash | basePath | avatar => rfl
  | change asked =>
      cases asked with
      | delete => rfl
      | add key =>
          cases answer with
          | none => rfl
          | some accepted => cases accepted <;> rfl

/-- The events behind the last one that closes the modal. -/
def sinceClosed (events : List Event) : List Event :=
  events.rtakeWhile fun event => !event.closes

/-- Events that do not close the modal add to those since it was closed. -/
theorem sinceClosed_append {front later : List Event}
    (kept : ∀ event ∈ later, event.closes = false) :
    sinceClosed (front ++ later) = sinceClosed front ++ later := by
  have keepsOpen : ∀ event ∈ later.reverse, (!event.closes) = true := by
    intro event member
    rw [kept event (List.mem_reverse.mp member)]
    rfl
  rw [sinceClosed, List.rtakeWhile, List.reverse_append, List.takeWhile_append_of_pos keepsOpen,
    List.reverse_append, List.reverse_reverse]
  rfl

/-- The fields follow from the events since the modal was closed. -/
theorem behind_eq (events : List Event) :
    behind events =
      ⟨(sinceClosed events).any (·.step.opens),
        ((sinceClosed events).filterMap (·.step.form?)).getLast?.getD {}⟩ := by
  -- The last event closes the modal and leaves nothing, or it counts among the others.
  induction events using List.reverseRecOn with
  | nil => rfl
  | append_singleton events event ih =>
      rw [sinceClosed] at ih
      rw [behind_concat, after_eq, sinceClosed, List.rtakeWhile_concat, ih]
      cases closes : event.closes with
      | true => rfl
      | false =>
          cases shown : event.step.form? <;>
            simp [shown, Bool.or_comm, List.filterMap_append]

/-- A form that is shown opens the modal. -/
theorem opens_of_form? {step : Step} {form : Modal} (shows : step.form? = some form) :
    step.opens = true := by
  cases step with
  | showForm => rfl
  | selectTab | openModal | closeModal | flash | basePath | avatar | change => cases shows

/-- The form is empty while the modal is hidden. -/
theorem form_eq_empty_of_hidden {events : List Event} (hidden : (behind events).shown = false) :
    (behind events).form = {} := by
  rw [behind_eq] at hidden ⊢
  have noForm : (sinceClosed events).filterMap (·.step.form?) = [] := by
    rw [List.filterMap_eq_nil_iff]
    intro event member
    cases shows : event.step.form? with
    | none => rfl
    | some form => exact (List.any_eq_false.mp hidden event member (opens_of_form? shows)).elim
  simp only [noForm]
  rfl

/-- The modal is shown if some event opened it and no later one closed it. -/
theorem shown_behind_iff {events : List Event} :
    (behind events).shown = true ↔
      ∃ front opening later, events = front ++ opening :: later ∧ opening.step.opens = true ∧
        ∀ event ∈ later, event.closes = false := by
  rw [behind_eq, List.any_eq_true]
  constructor
  · rintro ⟨opening, member, opens⟩
    rcases List.append_of_mem member with ⟨before, later, split⟩
    refine ⟨events.rdropWhile (fun event => !event.closes) ++ before, opening, later, ?_, opens, ?_⟩
    · rw [List.append_assoc, ← split, sinceClosed, List.rdropWhile_append_rtakeWhile]
    · intro event behind
      have among : event ∈ sinceClosed events := by
        rw [split]
        exact List.mem_append_right before (List.mem_cons_of_mem opening behind)
      simpa using List.mem_rtakeWhile_imp among
  · rintro ⟨front, opening, later, rfl, opens, kept⟩
    have keeps : ∀ event ∈ opening :: later, event.closes = false :=
      List.forall_mem_cons.mpr ⟨Event.not_closes_of_opens opens, kept⟩
    refine ⟨opening, ?_, opens⟩
    rw [sinceClosed_append keeps]
    exact List.mem_append_right (sinceClosed front) List.mem_cons_self

end ModalFields

/-! ## What events leave -/

/-- What a panel becomes by events. -/
structure Follows (panel : Panel) (events : List Event) (final : Panel) : Prop where
  profile : final.profile = panel.profile
  listed : final.listed = panel.listed
  activeTab : final.activeTab = (events.filterMap (·.step.tab?)).getLast?.getD panel.activeTab
  flashes : final.flashes = panel.flashes ++ events.filterMap (·.step.message?)
  modal : ModalFields.ofModal final.modal =
    events.foldl ModalFields.after (ModalFields.ofModal panel.modal)

theorem Follows.refl (panel : Panel) : panel.Follows [] panel :=
  ⟨rfl, rfl, rfl, (List.append_nil _).symm, rfl⟩

theorem Follows.trans {panel middle final : Panel} {first second : List Event}
    (one : panel.Follows first middle) (other : middle.Follows second final) :
    panel.Follows (first ++ second) final where
  profile := other.profile.trans one.profile
  listed := other.listed.trans one.listed
  activeTab := by
    rw [other.activeTab, one.activeTab, List.filterMap_append, List.getLast?_append]
    cases (second.filterMap (·.step.tab?)).getLast? <;> rfl
  flashes := by
    rw [other.flashes, one.flashes, List.filterMap_append, List.append_assoc]
  modal := by
    rw [other.modal, one.modal, List.foldl_append]

/-! ## Runs -/

variable {σ : Type} (backend : Backend σ)

/-- The steps of a run with the backend's answers to them. -/
def events (panel : Panel) : List Step → σ → List Event
  | [], _ => []
  | step :: steps, state =>
      let done := panel.step backend step state
      ⟨step, done.1.1⟩ :: done.1.2.events steps done.2

section Run

variable (panel : Panel) (step : Step) (steps : List Step) (state : σ)

theorem run_cons :
    panel.run backend (step :: steps) state =
      (panel.step backend step state).1.2.run backend steps (panel.step backend step state).2 := rfl

/-- A run can be left between two steps and taken up again. -/
theorem run_append (more : List Step) :
    panel.run backend (steps ++ more) state =
      (panel.run backend steps state).1.run backend more (panel.run backend steps state).2 := by
  induction steps generalizing panel state with
  | nil => rfl
  | cons step steps ih => exact ih _ _

theorem step_of_events : (panel.events backend steps state).map (·.step) = steps := by
  induction steps generalizing panel state with
  | nil => rfl
  | cons step steps ih => rw [events, List.map_cons, ih]

theorem filterMap_events {α : Type} (read : Step → Option α) :
    (panel.events backend steps state).filterMap (fun event => read event.step) =
      steps.filterMap read := by
  calc
    (panel.events backend steps state).filterMap (fun event => read event.step)
      = ((panel.events backend steps state).map (·.step)).filterMap read := by
        rw [List.filterMap_map]
        rfl
    _ = steps.filterMap read := by rw [step_of_events]

theorem step_follows :
    panel.Follows [⟨step, (panel.step backend step state).1.1⟩]
      (panel.step backend step state).1.2 := by
  cases step with
  | selectTab | openModal | closeModal | showForm | basePath | avatar =>
      exact ⟨rfl, rfl, rfl, (List.append_nil _).symm, rfl⟩
  | flash => exact ⟨rfl, rfl, rfl, rfl, rfl⟩
  | change change =>
      cases change with
      | delete => exact ⟨rfl, rfl, rfl, (List.append_nil _).symm, rfl⟩
      | add key =>
          have added : panel.step backend (.change (.add key)) state =
              ((some (backend.change (.add key) state).1,
                if (backend.change (.add key) state).1 then panel.closeModal else panel),
                (backend.change (.add key) state).2) := rfl
          rw [added]
          cases (backend.change (.add key) state).1 with
          | false => exact ⟨rfl, rfl, rfl, (List.append_nil _).symm, rfl⟩
          | true => exact ⟨rfl, rfl, rfl, (List.append_nil _).symm, rfl⟩

/-- What one step does carries over to a whole run. -/
theorem run_follows :
    panel.Follows (panel.events backend steps state) (panel.run backend steps state).1 := by
  induction steps generalizing panel state with
  | nil => exact .refl panel
  | cons step steps ih => exact (panel.step_follows backend step state).trans (ih _ _)

/-! ### Calls of the backend -/

/-- A change goes to the backend, which alone answers it. -/
theorem step_change (change : Store.Change) :
    (panel.step backend (.change change) state).1.1 = some (backend.change change state).1 ∧
      (panel.step backend (.change change) state).2 = (backend.change change state).2 := by
  cases change with
  | add => exact ⟨rfl, rfl⟩
  | delete => exact ⟨rfl, rfl⟩

/-- The backend answers the changes among the steps, each once and in order. -/
theorem mapM_change :
    (steps.filterMap Step.change?).mapM backend.change state =
      ((panel.events backend steps state).filterMap (·.answer),
        (panel.run backend steps state).2) := by
  induction steps generalizing panel state with
  | nil => rfl
  | cons step steps ih =>
      cases step with
      | selectTab | openModal | closeModal | showForm | flash | basePath | avatar => exact ih _ _
      | change change =>
          rcases panel.step_change backend state change with ⟨answer, next⟩
          have rest := ih (panel.step backend (.change change) state).1.2
            (panel.step backend (.change change) state).2
          have first : (change :: steps.filterMap Step.change?).mapM backend.change state =
              let others := (steps.filterMap Step.change?).mapM backend.change
                (backend.change change state).2
              ((backend.change change state).1 :: others.1, others.2) := by
            rw [List.mapM_cons]
            rfl
          rw [← next, rest] at first
          refine first.trans ?_
          rw [events, run_cons]
          simp only [List.filterMap_cons, answer]

/-- A record changes neither panel nor backend, and it grows by the change of a step. -/
theorem step_recorded (calls : List Store.Change) :
    panel.step backend.recorded step (state, calls) =
      ((panel.step backend step state).1, (panel.step backend step state).2,
        calls ++ step.change?.toList) := by
  have unrecorded : ∀ done : Option Bool × Panel,
      (done, state, calls) = (done, state, calls ++ (none : Option Store.Change).toList) :=
    fun done => congrArg (fun kept => (done, state, kept)) (List.append_nil calls).symm
  cases step with
  | selectTab | openModal | closeModal | showForm | flash | basePath | avatar =>
      exact unrecorded _
  | change change =>
      cases change with
      | add => rfl
      | delete => rfl

theorem run_recorded (calls : List Store.Change) :
    panel.run backend.recorded steps (state, calls) =
      ((panel.run backend steps state).1, (panel.run backend steps state).2,
        calls ++ steps.filterMap Step.change?) := by
  induction steps generalizing panel state calls with
  | nil => exact congrArg (fun kept => (panel, state, kept)) (List.append_nil calls).symm
  | cons step steps ih =>
      have asked : (step :: steps).filterMap Step.change? =
          step.change?.toList ++ steps.filterMap Step.change? := by
        cases change : step.change? <;> simp [change]
      rw [run_cons, step_recorded, ih, run_cons, asked, List.append_assoc]

/-- An add that is refused leaves a panel as it was, and so does every deletion. -/
theorem step_keeps (key : Key) :
    ((panel.step backend (.change (.add key)) state).1.1 = some false →
        (panel.step backend (.change (.add key)) state).1.2 = panel) ∧
      (panel.step backend (.change (.delete key)) state).1.2 = panel := by
  refine ⟨?_, rfl⟩
  intro refused
  have verdict : (backend.change (.add key) state).1 = false := Option.some.inj refused
  change (if (backend.change (.add key) state).1 then panel.closeModal else panel) = panel
  rw [verdict]
  rfl

end Run

/-- A page holds the modal if the modal is open and the tab of the keys is chosen. -/
theorem modal_mem_ids_render (panel : Panel) :
    "ssh-key-modal" ∈ Piece.ids (read panel.render) ↔
      panel.modal.isSome = true ∧ panel.activeTab = .keys := by
  have chosen : panel.view.activeTab = panel.activeTab := rfl
  have shown : panel.view.modal = panel.modal := rfl
  rw [Page.read_render, Page.ids_tokens, chosen, shown]
  cases panel.activeTab with
  | info => simp
  | keys => cases panel.modal <;> simp

/-- A panel after any steps, over any backend. The modal is open if a step opened it and no later
one closed it, and its form is the last that was shown since the modal was closed; tab, messages
and the calls of the backend are those of the steps. What is read off the panel between two steps
is a function of it, and the run goes on from there. -/
theorem run_tells_panel (profile : Profile) (listed : Option (List Key)) (steps : List Step)
    (state : σ) :
    let start : Panel := { profile, listed }
    let events := start.events backend steps state
    let run := start.run backend steps state
    let final := run.1
    let fields := ModalFields.behind events
    events.map (·.step) = steps ∧
      (steps.filterMap Step.change?).mapM backend.change state =
        (events.filterMap (·.answer), run.2) ∧
      start.run backend.recorded steps (state, []) =
        (final, run.2, steps.filterMap Step.change?) ∧
      (final.modal.isSome = true ↔
        ∃ front opening later, events = front ++ opening :: later ∧ opening.step.opens = true ∧
          ∀ event ∈ later, event.closes = false) ∧
      fields = ⟨final.modal.isSome, final.view.form⟩ ∧
      (fields.shown = false → fields.form = {}) ∧
      (final.modal.isSome = true → final.view.form =
        ((ModalFields.sinceClosed events).filterMap (·.step.form?)).getLast?.getD {}) ∧
      ("ssh-key-modal" ∈ Piece.ids (read final.render) ↔
        final.modal.isSome = true ∧ final.activeTab = .keys) ∧
      final.activeTab = (steps.filterMap Step.tab?).getLast?.getD .info ∧
      final.flashes = steps.filterMap Step.message? ∧
      final.profile = profile ∧ final.listed = listed ∧
      (∀ front later, steps = front ++ later →
        run = (start.run backend front state).1.run backend later
          (start.run backend front state).2) ∧
      ∀ (panel : Panel) (key : Key) (before : σ),
        ((panel.step backend (.change (.add key)) before).1.1 = some false →
            (panel.step backend (.change (.add key)) before).1.2 = panel) ∧
          (panel.step backend (.change (.delete key)) before).1.2 = panel := by
  intro start events run final fields
  have follows : start.Follows events final := start.run_follows backend steps state
  have told : fields = ⟨final.modal.isSome, final.view.form⟩ := follows.modal.symm
  have shown : final.modal.isSome = fields.shown := by rw [told]
  have form : final.view.form = fields.form := by rw [told]
  refine ⟨start.step_of_events backend steps state, start.mapM_change backend steps state,
    start.run_recorded backend steps state [], ?_, told, ModalFields.form_eq_empty_of_hidden, ?_,
    modal_mem_ids_render final, ?_, ?_, follows.profile, follows.listed, ?_,
    fun panel key before => panel.step_keeps backend before key⟩
  · rw [shown]
    exact ModalFields.shown_behind_iff
  · intro _
    rw [form]
    exact congrArg ModalFields.form (ModalFields.behind_eq events)
  · rw [follows.activeTab, start.filterMap_events backend steps state]
  · rw [follows.flashes, start.filterMap_events backend steps state]
    rfl
  · intro front later split
    rw [← start.run_append backend front state later, ← split]

/-- A form that was shown again, refused and then accepted does not come back with the modal. -/
theorem run_tells_panel_of_reopened :
    let start : Panel := { profile := {}, listed := none }
    let key : Key := ⟨"desk", "ssh-rsa A"⟩
    let steps : List Step :=
      [.showForm ⟨⟨"desk", ""⟩, ⟨none, some "missing"⟩⟩, .change (.add key), .selectTab .info,
        .change (.add key), .openModal]
    let final := (start.run Backend.scripted steps { addAnswers := [false, true] }).1
    final.modal.isSome = true ∧ final.view.form = {} ∧ final.activeTab = .keys := by
  intro start key steps final
  obtain ⟨-, -, -, opened, -, -, form, -, tab, -⟩ :=
    run_tells_panel Backend.scripted {} none steps { addAnswers := [false, true] }
  have shown : final.modal.isSome = true := by
    refine opened.mpr ⟨[⟨.showForm ⟨⟨"desk", ""⟩, ⟨none, some "missing"⟩⟩, none⟩,
      ⟨.change (.add key), some false⟩, ⟨.selectTab .info, none⟩, ⟨.change (.add key), some true⟩],
      ⟨.openModal, none⟩, [], rfl, rfl, ?_⟩
    intro event member
    cases member
  exact ⟨shown, form shown, tab⟩

end AccountPanel.Panel
