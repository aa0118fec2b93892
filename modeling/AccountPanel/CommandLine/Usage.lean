import AccountPanel.CommandLine.Vocabulary

/-!
# Usage lines and help

How a command is used, in one line and in full.
-/

namespace AccountPanel.CommandLine

/-- A usage line: the options that it names, and whether it names the own options of the command as
a group. -/
structure Usage where
  scope : Scope
  options : List Opt := []
  group : Bool := false
  deriving Repr, DecidableEq

namespace Usage

/-- What may follow a command if no option is named. -/
def general : Scope → String
  | .program => " [OPTIONS] [COMMAND]"
  | .serve | .render => " [OPTIONS]"
  | .help => " [COMMAND]..."

/-- The own options of a command as alternatives. -/
def alternatives (scope : Scope) : String :=
  "<" ++ String.intercalate "|" (scope.own.map Opt.display) ++ ">"

/-- The usage line. A group stands for the options in it. -/
def line (usage : Usage) : String :=
  let named :=
    if usage.group then usage.options.filter (! usage.scope.own.contains ·) else usage.options
  let parts := named.eraseDups.map Opt.display ++
    if usage.group then [alternatives usage.scope] else []
  "Usage: " ++ usage.scope.call ++
    if parts.isEmpty then general usage.scope else String.join (parts.map (" " ++ ·))

end Usage

/-- The text with spaces behind it up to a width. -/
def padded (width : Nat) (text : String) : String :=
  text ++ String.ofList (List.replicate (width - text.length) ' ')

/-- Rows of two columns. -/
def table (rows : List (String × String)) : String :=
  let width := (rows.map (·.1.length)).foldl max 0
  String.join (rows.map fun (left, right) => "  " ++ padded width left ++ "  " ++ right ++ "\n")

/-- The row of an option in the help of a command. -/
def optionRow (scope : Scope) (option : Opt) : String × String :=
  let lead := match option.short? with
    | some letter => "-" ++ letter.toString ++ ", "
    | none => "    "
  let fallback := match option.default? with
    | some value => " [default: " ++ value ++ "]"
    | none => ""
  (lead ++ option.display, option.about scope ++ fallback)

/-- A section of the help, with its heading. -/
def helpSection (heading : String) (rows : List (String × String)) : String :=
  if rows.isEmpty then "" else "\n" ++ heading ++ ":\n" ++ table rows

/-- The help of a command. -/
def helpText (scope : Scope) : String :=
  scope.about ++ "\n\n" ++ ({ scope } : Usage).line ++ "\n" ++
    helpSection "Commands" (scope.commands.map fun command => (command.name, command.about)) ++
    helpSection "Arguments"
      (if scope = .help then [("[COMMAND]...", "Print help for the subcommand(s)")] else []) ++
    helpSection "Options" (scope.listed.map (optionRow scope)) ++
    if scope = .program then
      "\nUse \x60userpanel <subcommand> --help\x60 to get subcommand specific options.\n"
    else ""

end AccountPanel.CommandLine
