/-!
# The words of the command line

The commands of the program and the options that each of them takes, with the words that describe
them. An option with a value name takes a value; any other option is a flag.
-/

namespace AccountPanel.CommandLine

/-- A command, or the program itself. -/
inductive Scope where
  | program
  | serve
  | render
  | help
  deriving Repr, DecidableEq

/-- An option. -/
inductive Opt where
  | host
  | port
  | envFile
  | stylesheet
  | keysFile
  | tab
  | modal
  | noColor
  | help
  | version
  deriving Repr, DecidableEq

namespace Opt

/-- The word for an option behind its two dashes. -/
def long : Opt → String
  | .host => "host"
  | .port => "port"
  | .envFile => "env-file"
  | .stylesheet => "stylesheet"
  | .keysFile => "keys-file"
  | .tab => "tab"
  | .modal => "modal"
  | .noColor => "no-color"
  | .help => "help"
  | .version => "version"

/-- The letter for an option behind one dash. -/
def short? : Opt → Option Char
  | .help => some 'h'
  | .version => some 'V'
  | _ => none

/-- What the value of an option is called. -/
def valueName? : Opt → Option String
  | .host => some "HOST"
  | .port => some "PORT"
  | .envFile => some "ENV_FILE"
  | .stylesheet => some "STYLESHEET"
  | .keysFile => some "KEYS_FILE"
  | .tab => some "TAB"
  | _ => none

/-- Does the option take a value? -/
def takesValue (option : Opt) : Bool := option.valueName?.isSome

/-- The value of an option that is not given. -/
def default? : Opt → Option String
  | .host => some "127.0.0.1"
  | .port => some "8080"
  | .tab => some "info"
  | _ => none

/-- The option with its dashes. -/
def dashed (option : Opt) : String := "--" ++ option.long

/-- The option with its dashes and its value. -/
def display (option : Opt) : String :=
  match option.valueName? with
  | some name => option.dashed ++ " <" ++ name ++ ">"
  | none => option.dashed

/-- What an option of a command is for. -/
def about (scope : Scope) : Opt → String
  | .host => "Host to bind to"
  | .port => "Port to bind to"
  | .envFile => "Path to .env file"
  | .stylesheet => "Path to a custom stylesheet to serve instead of the default"
  | .keysFile =>
    if scope = .serve then
      "JSON file with the initial SSH keys (\x60[\x7b\"name\": .., \"key\": ..\x7d]\x60)"
    else "JSON file with the SSH keys to list"
  | .tab => "Tab to show (info | ssh-keys)"
  | .modal => "Render with the \"New SSH key\" modal open"
  | .noColor => "Disable colorized output"
  | .help => "Print help"
  | .version => "Print version"

end Opt

namespace Scope

/-- The word for a command. -/
def name : Scope → String
  | .program => "userpanel"
  | .serve => "serve"
  | .render => "render"
  | .help => "help"

/-- How a command is called. -/
def call : Scope → String
  | .program => "userpanel"
  | scope => "userpanel " ++ scope.name

/-- The commands of a command. -/
def commands : Scope → List Scope
  | .program => [.serve, .render, .help]
  | _ => []

/-- The command that a word calls. -/
def command? (scope : Scope) (word : String) : Option Scope :=
  scope.commands.find? (·.name == word)

/-- What a command is for. -/
def about : Scope → String
  | .program => "Account settings panel: profile summary and SSH keys"
  | .serve => "Start the web server"
  | .render => "Print the panel HTML for the configured profile"
  | .help => "Print this message or the help of the given subcommand(s)"

/-- The options that belong to a command alone. -/
def own : Scope → List Opt
  | .program => [.noColor]
  | .serve => [.host, .port, .envFile, .stylesheet, .keysFile]
  | .render => [.tab, .modal, .envFile, .keysFile]
  | .help => []

/-- The options that a command shares with others. -/
def shared : Scope → List Opt
  | .program => [.help, .version]
  | .serve | .render => [.noColor, .help]
  | .help => []

/-- All options of a command. -/
def options (scope : Scope) : List Opt := scope.own ++ scope.shared

/-- All options of a command in the order in which help lists them. -/
def listed (scope : Scope) : List Opt :=
  match scope with
  | .serve | .render =>
    scope.own.take 3 ++ [.noColor] ++ scope.own.drop 3 ++ [.help]
  | _ => scope.options

/-- The option that a word behind two dashes stands for. -/
def long? (scope : Scope) (word : String) : Option Opt :=
  scope.options.find? (·.long == word)

/-- The option that a letter behind one dash stands for. -/
def short? (scope : Scope) (letter : Char) : Option Opt :=
  scope.options.find? (·.short? == some letter)

end Scope

end AccountPanel.CommandLine
