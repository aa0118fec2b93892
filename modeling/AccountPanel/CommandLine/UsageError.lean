import AccountPanel.CommandLine.Port
import AccountPanel.CommandLine.Similarity
import AccountPanel.CommandLine.Usage
import AccountPanel.Text.ControlSequence

/-!
# Faults of a command line

What can be wrong with the words of a command line, and the message for each fault. Some messages
carry a tip and a usage line. A word that was given is shown without its control sequences.
-/

namespace AccountPanel.CommandLine

/-- What to try instead. -/
inductive Tip where
  /-- An option of the same command. -/
  | option (option : Opt)
  /-- An option of another command. -/
  | elsewhere (command : Scope) (option : Opt)
  /-- The command that a word calls if no two dashes come before it. -/
  | command (word : String)
  deriving Repr, DecidableEq

/-- The words of a tip. -/
def Tip.message : Tip → String
  | .option similar => "a similar argument exists: '" ++ similar.dashed ++ "'"
  | .elsewhere scope similar => "'" ++ scope.name ++ " " ++ similar.dashed ++ "' exists"
  | .command word =>
    "subcommand '" ++ word ++ "' exists; to use it, remove the '--' before it"

/-- A fault of a command line. -/
inductive UsageError where
  | missingValue (option : Opt)
  | invalidValue (option : Opt) (value : String) (reason : PortError)
  | repeated (scope : Scope) (option : Opt)
  /-- A value for a flag. -/
  | unneededValue (option : Opt) (value : String) (usage : Usage)
  | unknownArgument (word : String) (tip : Option Tip) (usage : Usage)
  | unknownCommand (scope : Scope) (word : String) (similar : List String)
  deriving Repr, DecidableEq

namespace UsageError

/-- What is wrong. -/
def summary : UsageError → String
  | .missingValue option =>
    "a value is required for '" ++ option.display ++ "' but none was supplied"
  | .invalidValue option value reason =>
    "invalid value '" ++ Text.withoutControls value ++ "' for '" ++ option.display ++ "': " ++
      reason.message
  | .repeated _ option =>
    "the argument '" ++ option.display ++ "' cannot be used multiple times"
  | .unneededValue option value _ =>
    "unexpected value '" ++ Text.withoutControls value ++ "' for '" ++ option.display ++
      "' found; no more were expected"
  | .unknownArgument word _ _ => "unexpected argument '" ++ Text.withoutControls word ++ "' found"
  | .unknownCommand _ word _ => "unrecognized subcommand '" ++ Text.withoutControls word ++ "'"

/-- What to try instead. -/
def tip? : UsageError → Option String
  | .unknownArgument _ tip _ => tip.map Tip.message
  | .unknownCommand _ _ [] => none
  | .unknownCommand _ _ [word] => some ("a similar subcommand exists: '" ++ word ++ "'")
  | .unknownCommand _ _ words =>
    some ("some similar subcommands exist: " ++
      String.intercalate ", " (words.map fun word => "'" ++ word ++ "'"))
  | _ => none

/-- The usage that the message shows. -/
def usage? : UsageError → Option Usage
  | .missingValue _ | .invalidValue _ _ _ => none
  | .repeated scope _ | .unknownCommand scope _ _ => some { scope }
  | .unneededValue _ _ usage | .unknownArgument _ _ usage => some usage

/-- Where to read more. The command for help has no help of its own. -/
def hint : UsageError → String
  | .unknownCommand .help _ _ => ""
  | _ => "\nFor more information, try '--help'.\n"

/-- The whole message. -/
def message (error : UsageError) : String :=
  let tip := match error.tip? with
    | some tip => "\n\n  tip: " ++ tip
    | none => ""
  let usage := match error.usage? with
    | some usage => "\n\n" ++ usage.line
    | none => ""
  "error: " ++ error.summary ++ tip ++ usage ++ "\n" ++ error.hint

end UsageError

end AccountPanel.CommandLine
