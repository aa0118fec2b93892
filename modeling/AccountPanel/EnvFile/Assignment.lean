import AccountPanel.EnvFile.Lines
import AccountPanel.EnvFile.Value

/-!
# Assignments in an environment file

A logical line is blank, a comment, or an assignment: a name, an equals sign and a value, with the
word `export` before the name if one likes. Loading a file defines the variables of its assignments
in order, each only if it is not set yet, and ends at the first fault.
-/

namespace AccountPanel.EnvFile

/-- May a name start with this character? -/
def startsName (character : Char) : Bool := character.isAlpha || character == '_'

/-- May a name go on with this character? -/
def continuesName (character : Char) : Bool :=
  character.isAlphanum || character == '_' || character == '.'

/-- A line without the blanks at its start. -/
def skipBlanks (line : List Char) : List Char := line.dropWhile Text.isBlank

/-- A name at the start of a line, and what follows it and the blanks behind it. -/
def name? (line : List Char) : Option (String × List Char) :=
  match line with
  | [] => none
  | character :: _ =>
    if startsName character then
      some (String.ofList (line.takeWhile continuesName),
        skipBlanks (line.dropWhile continuesName))
    else none

/-- What follows the equals sign at the start of a line. -/
def equals? : List Char → Option (List Char)
  | '=' :: rest => some rest
  | _ => none

/-- A name with its equals sign at the start of a line, and what follows them. The word `export`
before the name is skipped, unless it is the name. -/
def target? (line : List Char) : Option (String × List Char) := do
  let (name, rest) ← name? line
  match equals? rest with
  | some value => some (name, value)
  | none =>
    if name = "export" then
      let (name, rest) ← name? rest
      return (name, ← equals? rest)
    else none

/-- What a logical line says. -/
inductive Line where
  /-- Nothing. -/
  | blank
  | assignment (name value : String)
  | malformed
  deriving Repr, DecidableEq

/-- Read a logical line. -/
def readLine (environment : Environment) (line : List Char) : Line :=
  let line := skipBlanks (Text.dropTrailing Text.isBlank line)
  if line = [] ∨ line.head? = some '#' then .blank
  else
    match target? line with
    | none => .malformed
    | some (name, rest) =>
      let rest := skipBlanks rest
      if rest = [] ∨ rest.head? = some '#' then .assignment name ""
      else
        match value? environment rest with
        | some value => .assignment name value
        | none => .malformed

/-- Carry out logical lines in order, up to the first fault. -/
def loadLines (environment : Environment) : List (Option (List Char)) → Environment
  | [] => environment
  | none :: _ => environment
  | some line :: lines =>
    match readLine environment line with
    | .blank => loadLines environment lines
    | .assignment name value => loadLines (environment.define name value) lines
    | .malformed => environment

/-- Load a file. -/
def load (environment : Environment) (octets : List UInt8) : Environment :=
  loadLines environment (lines octets)

end AccountPanel.EnvFile
