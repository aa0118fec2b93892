import AccountPanel.CommandLine.Invocation
import AccountPanel.HostAddress
import AccountPanel.KeyFile
import AccountPanel.Log
import AccountPanel.Settings

/-!
# The program

What a command line comes to: texts for the two outputs and an exit status, or a site that is to be
served. The program sees the world as its environment and the files that it can read. It tells a log
what it does, and what the log writes stands on standard output with what the program prints.
-/

namespace AccountPanel

/-- What the program can see. -/
structure World where
  environment : Environment
  read : Files.Reader

/-- What a command line comes to. -/
inductive Outcome where
  | finished (status : Nat) (output errors : String)
  /-- Serve the site, with this store, at an address. -/
  | serving (site : Site) (store : Store) (host : String) (port : Nat)

/-- An outcome with a text on standard output before its own. What was written before a site is
served is not told. -/
def Outcome.behind (written : String) : Outcome → Outcome
  | .finished status output errors => .finished status (written ++ output) errors
  | .serving site store host port => .serving site store host port

namespace Program

open CommandLine

/-- The line that tells an error. -/
def errorLine (colored : Bool) (message : String) : String :=
  (if colored then "\x1b[31mError\x1b[0m" else "Error") ++ ": " ++ message ++ "\n"

/-- A part of the program: it can fail, and it tells the log about events. -/
abbrev Task := ExceptT PanelError (StateM (List Event))

/-- Tell the log about an event. -/
def tell (event : Event) : Task Unit := modify (· ++ [event])

/-- The keys of a key file, if one is named. -/
def loadKeys (world : World) (keysFile : Option String) : Task (List Key) :=
  match keysFile with
  | some path => do
    let keys ← MonadExcept.ofExcept (KeyFile.loadFile world.read path)
    tell (.keysLoaded path keys.length)
    return keys
  | none => return []

/-- The site and the store that the environment, an environment file and a key file describe. The
environment file is loaded first. -/
def prepare (world : World) (envFile keysFile : Option String) : Task (Site × Store) := do
  let environment := world.environment.loadFile world.read envFile
  let keys ← loadKeys world keysFile
  return (environment.site, ⟨keys⟩)

/-- Print the page. -/
def render (world : World) (request : RenderRequest) : Task Outcome := do
  let (site, store) ← prepare world request.envFile request.keysFile
  let (html, _) :=
    site.renderAt Backend.inMemory (Tab.ofSlug (some request.tab)) request.modal store
  return .finished 0 (html ++ "\n") ""

/-- Get ready to serve the page. -/
def serve (world : World) (request : ServeRequest) : Task Outcome := do
  let (site, store) ← prepare world request.envFile request.keysFile
  let site ← match request.stylesheet with
    | some path => do
      let css ← MonadExcept.ofExcept ((world.read.text path).mapError .file)
      tell (.stylesheetLoaded path)
      pure { site with stylesheet := String.ofList css }
    | none => pure site
  if HostAddress.isValid request.host then
    return .serving site store request.host request.port
  else throw .address

/-- Do what was asked for. -/
def perform (world : World) : Request → Task Outcome
  | .serve request => serve world request
  | .render request => render world request

/-- What the program does with a command line. The log is set up from the environment at the start,
before an environment file is loaded; without a library that writes it, it is silent. -/
def run (world : World) (words : List String)
    (subscriber : Subscriber := fun _ => some Log.silent) : Outcome :=
  match parse words with
  | .error (.help scope) => .finished 0 (helpText scope) ""
  | .error .version => .finished 0 "userpanel 0.1.0\n" ""
  | .error (.fault error) => .finished 2 "" error.message
  | .ok invocation =>
    let log := Log.ofEnvironment subscriber world.environment
    match (perform world invocation.request).run.run [] with
    | (.ok outcome, events) => outcome.behind (log.text events)
    | (.error error, events) =>
      (Outcome.finished 1 "" (errorLine invocation.colored error.message)).behind
        (log.text (events ++ [.failed error.message]))

/-- The files that a command line may read. -/
def files (words : List String) : List String :=
  match parse words with
  | .ok ⟨.serve request, _⟩ =>
    [request.envFile.getD ".env"] ++ request.keysFile.toList ++ request.stylesheet.toList
  | .ok ⟨.render request, _⟩ => [request.envFile.getD ".env"] ++ request.keysFile.toList
  | .error _ => []

end Program

end AccountPanel
