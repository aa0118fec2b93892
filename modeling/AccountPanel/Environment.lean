import AccountPanel.Text.Utf8

/-!
# Environments

Named texts. A name has at most one text that counts, the first one.
-/

namespace AccountPanel

/-- The variables that are set. -/
structure Environment where
  bindings : List (String × String) := []
  deriving Repr, DecidableEq

namespace Environment

/-- The text of a variable. -/
def get? (environment : Environment) (name : String) : Option String :=
  environment.bindings.lookup name

/-- The variable that a name belongs to: the name up to its first equals sign. -/
def owner (name : String) : String := String.ofList (name.toList.takeWhile (· != '='))

/-- The text that a name is expanded to. A variable is kept as one entry, its name, an equals sign
and its text, and a name is looked for at the start of the entries, with an equals sign behind it.
So a name with equals signs in it reaches into the text of its owner. -/
def expansion? (environment : Environment) (name : String) : Option String := do
  let text ← environment.get? (owner name)
  match name.toList.dropWhile (· != '=') with
  | [] => return text
  | _ :: start => return String.ofList (← (start ++ ['=']).isPrefixOf? text.toList)

/-- Set a variable that is not set yet; one that is set stays as it is. -/
def define (environment : Environment) (name text : String) : Environment :=
  if (environment.get? name).isSome then environment
  else ⟨environment.bindings ++ [(name, text)]⟩

/-- The environment of variables with octets as texts. A variable whose octets are not valid UTF-8
counts as not set. -/
def ofOctets (bindings : List (String × List UInt8)) : Environment where
  bindings := bindings.filterMap fun (name, octets) =>
    (Text.Utf8.decode? octets).map fun text => (name, String.ofList text)

end Environment

end AccountPanel
