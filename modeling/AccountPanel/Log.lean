import AccountPanel.Environment

/-!
# The log

What the program tells a log about its start. The library that writes the log is not part of the
program: it decides which events it writes, with the time and in its own form, on standard output.
The program only tells it the directives, which are in a variable of the environment.
-/

namespace AccountPanel

/-- How much an event matters. -/
inductive Level where
  | info
  | error
  deriving Repr, DecidableEq

/-- What happened, with the values that go with it. -/
structure Event where
  level : Level
  message : String
  fields : List (String × String) := []
  deriving Repr, DecidableEq

namespace Event

def keysLoaded (path : String) (count : Nat) : Event :=
  ⟨.info, "Loaded SSH keys from " ++ path, [("count", toString count)]⟩

def stylesheetLoaded (path : String) : Event :=
  ⟨.info, "Loaded custom stylesheet from " ++ path, []⟩

/-- The program ends with an error. -/
def failed (message : String) : Event :=
  ⟨.error, "Account panel exited with an error", [("e", message)]⟩

end Event

/-- What is written on standard output for an event. -/
abbrev Log := Event → String

/-- The library that writes a log: the log for a text of directives, unless it cannot read them. -/
abbrev Subscriber := String → Option Log

namespace Log

/-- The log that is turned off. -/
def silent : Log := fun _ => ""

/-- What is written for events in order. -/
def text (log : Log) (events : List Event) : String := String.join (events.map log)

/-- The log that an environment asks for. Without directives that can be read, those of level
`info` and above are asked for. -/
def ofEnvironment (subscriber : Subscriber) (environment : Environment) : Log :=
  (((environment.get? "RUST_LOG").bind subscriber).or (subscriber "info")).getD silent

end Log

end AccountPanel
