import AccountPanel.Program
import AccountPanel.Proofs.CommandLine.Options
import AccountPanel.Proofs.Site.AccountPage

/-!
# One page in three ways

A page is built at once from a site and its keys, it is answered to a query, and it is printed by
the program. Each way puts the panel together by itself, and all of them come to the same page. On
standard output the page stands behind what the log has written, and nothing else comes with it.
-/

namespace AccountPanel

/-- The keys that the program starts with: those of a key file, if one is named. -/
def World.seedKeys (world : World) (keysFile : Option String) : Except PanelError (List Key) :=
  match keysFile with
  | some path => KeyFile.loadFile world.read path
  | none => .ok []

/-- A log that writes nothing for an event writes nothing for any of them. -/
theorem Log.text_of_silent {log : Log} (silent : ∀ event, log event = "") (events : List Event) :
    log.text events = "" := by
  induction events with
  | nil => rfl
  | cons event events ih =>
      rw [text, List.map_cons, String.join_cons, silent, ← text, ih]
      rfl

theorem Outcome.behind_of_silent {log : Log} (silent : ∀ event, log event = "")
    (events : List Event) (outcome : Outcome) : outcome.behind (log.text events) = outcome := by
  rw [Log.text_of_silent silent]
  cases outcome with
  | finished status output errors => rw [behind, String.empty_append]
  | serving site store host port => rfl

namespace Program

open CommandLine

variable (world : World)

/-- A task goes on where the one before it has ended, with the events that it has told. -/
theorem run_bind {α β : Type} (task : Task α) (next : α → Task β) (events : List Event) :
    (task >>= next).run.run events =
      match task.run.run events with
      | (.ok value, told) => (next value).run.run told
      | (.error error, told) => (.error error, told) := by
  rw [ExceptT.run_bind, StateT.run_bind]
  change (match task.run.run events with | (result, told) => _) = _
  rcases task.run.run events with ⟨result, told⟩
  cases result with
  | ok value => rfl
  | error error => rfl

/-- What the log is told when keys were loaded. -/
def loadEvents (keysFile : Option String) (keys : List Key) : List Event :=
  (keysFile.map (Event.keysLoaded · keys.length)).toList

theorem run_loadKeys (keysFile : Option String) (events : List Event) :
    (loadKeys world keysFile).run.run events =
      match world.seedKeys keysFile with
      | .ok keys => (.ok keys, events ++ loadEvents keysFile keys)
      | .error error => (.error error, events) := by
  cases keysFile with
  | none => exact congrArg (Prod.mk _) (List.append_nil events).symm
  | some path =>
      simp only [loadKeys, World.seedKeys]
      cases KeyFile.loadFile world.read path with
      | ok keys => rfl
      | error error => rfl

theorem run_prepare (envFile keysFile : Option String) (events : List Event) :
    (prepare world envFile keysFile).run.run events =
      match world.seedKeys keysFile with
      | .ok keys =>
        (.ok ((world.environment.loadFile world.read envFile).site, ⟨keys⟩),
          events ++ loadEvents keysFile keys)
      | .error error => (.error error, events) := by
  simp only [prepare, run_bind, run_loadKeys]
  cases world.seedKeys keysFile with
  | ok keys => rfl
  | error error => rfl

/-- The page that is built at once for a request to print it, for the keys that were loaded. -/
def page (request : RenderRequest) (keys : List Key) : String :=
  ((world.environment.loadFile world.read request.envFile).site.renderAt Backend.inMemory
    (Tab.ofSlug (some request.tab)) request.modal ⟨keys⟩).1

/-- What the program does with a request to print the page, in whatever order its options are
written. -/
theorem run_render (request : RenderRequest) {settings : List Setting}
    (order : settings.Perm request.settings) (subscriber : Subscriber) :
    run world ("render" :: settings.map Setting.word) subscriber =
      let log := Log.ofEnvironment subscriber world.environment
      match world.seedKeys request.keysFile with
      | .ok keys =>
        (Outcome.finished 0 (page world request keys ++ "\n") "").behind
          (log.text (loadEvents request.keysFile keys))
      | .error error =>
        (Outcome.finished 1 "" (errorLine true error.message)).behind
          (log.text [.failed error.message]) := by
  simp only [run, parse_render request order, perform, render, run_bind, run_prepare]
  cases world.seedKeys request.keysFile with
  | ok keys => rfl
  | error error => rfl

end Program

/-- A log of plain lines, all written at one time. -/
def plainLog : Log := fun event =>
  "2024-05-01T09:30:00.000000Z " ++ (if event.level = .info then " INFO" else "ERROR") ++
    " userpanel: " ++ event.message ++
    String.join (event.fields.map fun field => " " ++ field.1 ++ "=" ++ field.2) ++ "\n"

/-- A library that can be told to write plain lines or nothing. -/
def plainSubscriber : Subscriber := fun directives =>
  if directives = "off" then some Log.silent
  else if directives = "info" then some plainLog
  else none

end AccountPanel
