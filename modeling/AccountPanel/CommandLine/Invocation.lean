import AccountPanel.CommandLine.Given

/-!
# What a command line asks for

The words of a command line as a request to the program, or the reason why there is none.
-/

namespace AccountPanel.CommandLine

/-- A request to serve the page. -/
structure ServeRequest where
  host : String
  port : Nat
  envFile : Option String
  stylesheet : Option String
  keysFile : Option String
  deriving Repr, DecidableEq

/-- A request to print the page. -/
structure RenderRequest where
  tab : String
  modal : Bool
  envFile : Option String
  keysFile : Option String
  deriving Repr, DecidableEq

/-- What the program is asked to do. -/
inductive Request where
  | serve (request : ServeRequest)
  | render (request : RenderRequest)
  deriving Repr, DecidableEq

/-- A request, and whether errors are coloured. -/
structure Invocation where
  request : Request
  colored : Bool
  deriving Repr, DecidableEq

/-- The help that is asked for by the words behind `help`. -/
def helpFor (scope : Scope) : List String → Stop
  | [] => .help scope
  | word :: words =>
    match scope.command? word with
    | some command => helpFor command words
    | none => .fault (.unknownCommand scope word [])

namespace Given

/-- The request to serve the page that the options make. -/
def serveRequest (given : Given) : ServeRequest where
  host := (given.value .host).getD ""
  port := ((readPort ((given.value .port).getD "")).toOption).getD 0
  envFile := given.value .envFile
  stylesheet := given.value .stylesheet
  keysFile := given.value .keysFile

/-- The request to print the page that the options make. -/
def renderRequest (given : Given) : RenderRequest where
  tab := (given.value .tab).getD ""
  modal := given.has .modal
  envFile := given.value .envFile
  keysFile := given.value .keysFile

end Given

/-- Read a command line. Without a command the page is served. -/
def parse (words : List String) : Except Stop Invocation := do
  let (program, command) ← Given.read {} .program words
  match command with
  | none => return ⟨.serve (Given.serveRequest {}), !program.has .noColor⟩
  | some (.help, words) => .error (helpFor .program words)
  | some (scope, words) =>
    let (given, _) ← Given.read {} scope words
    let request :=
      if scope = .render then Request.render given.renderRequest
      else .serve given.serveRequest
    return ⟨request, !(program.has .noColor || given.has .noColor)⟩

end AccountPanel.CommandLine
