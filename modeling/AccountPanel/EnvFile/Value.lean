import AccountPanel.Environment
import AccountPanel.Text.Alphanumeric

/-!
# Values in an environment file

A value may be bare, in single quotes, where nothing is special, or in double quotes. Outside
single quotes a backslash escapes the next character, and a dollar sign puts in the text of a
variable: either the letters and numbers behind it are the name, or everything between braces. The
character that ends a name without braces stands for itself, even if it is a quote.
-/

namespace AccountPanel.EnvFile

/-- What the reader of a value is inside of. -/
inductive Mode where
  | bare
  /-- Inside double quotes. -/
  | weak
  /-- Inside single quotes. -/
  | strong
  /-- Behind a backslash; the reader returns to `outer`. -/
  | escape (outer : Mode)
  /-- In a name behind a dollar sign, its last letter first. -/
  | name (outer : Mode) (letters : List Char)
  /-- In a name between braces, its last letter first. -/
  | braced (outer : Mode) (letters : List Char)
  /-- Behind a bare value that a blank has ended. -/
  | ended
  /-- In a comment. -/
  | comment
  deriving Repr, DecidableEq

/-- A value under way: the mode, and the characters so far, the last one first. -/
structure Reading where
  mode : Mode := .bare
  done : List Char := []
  deriving Repr, DecidableEq

namespace Reading

/-- Put a character into the value. -/
def put (reading : Reading) (mode : Mode) (character : Char) : Reading :=
  ⟨mode, character :: reading.done⟩

/-- Put in the text that the name with these letters, the last one first, is expanded to. A name
that nothing stands behind has no text. -/
def substitute (environment : Environment) (reading : Reading) (mode : Mode)
    (letters : List Char) : Reading :=
  let text := (environment.expansion? (String.ofList letters.reverse)).getD ""
  ⟨mode, text.toList.reverse ++ reading.done⟩

/-- The character that an escaped one stands for. -/
def escaped? : Char → Option Char
  | '\\' => some '\\'
  | '\'' => some '\''
  | '"' => some '"'
  | '$' => some '$'
  | ' ' => some ' '
  | 'n' => some '\n'
  | _ => none

/-- Take one character. There is no answer if it may not stand where it does. -/
def step? (environment : Environment) (reading : Reading) (character : Char) :
    Option Reading :=
  match reading.mode with
  | .comment => some reading
  | .ended =>
    if character = ' ' ∨ character = '\t' then some reading
    else if character = '#' then some { reading with mode := .comment }
    else none
  | .escape outer => (escaped? character).map (reading.put outer)
  | .strong =>
    if character = '\'' then some { reading with mode := .bare }
    else some (reading.put .strong character)
  | .name outer letters =>
    if Text.isAlphanumeric character then
      some { reading with mode := .name outer (character :: letters) }
    else if character = '\x7b' ∧ letters = [] then
      some { reading with mode := .braced outer [] }
    else if character = '$' then
      some (substitute environment reading (.name outer []) letters)
    else some ((substitute environment reading outer letters).put outer character)
  | .braced outer letters =>
    if character = '\x7d' then some (substitute environment reading outer letters)
    else some { reading with mode := .braced outer (character :: letters) }
  | .weak =>
    if character = '$' then some { reading with mode := .name .weak [] }
    else if character = '"' then some { reading with mode := .bare }
    else if character = '\\' then some { reading with mode := .escape .weak }
    else some (reading.put .weak character)
  | .bare =>
    if character = '$' then some { reading with mode := .name .bare [] }
    else if character = '\'' then some { reading with mode := .strong }
    else if character = '"' then some { reading with mode := .weak }
    else if character = '\\' then some { reading with mode := .escape .bare }
    else if character = ' ' ∨ character = '\t' then some { reading with mode := .ended }
    else some (reading.put .bare character)

/-- Are quotes open in this mode? -/
def isQuoted : Mode → Bool
  | .weak | .strong => true
  | .escape outer | .name outer _ => isQuoted outer
  | _ => false

/-- The value at the end of its line, unless quotes or braces are open. -/
def finish? (environment : Environment) (reading : Reading) : Option String :=
  match reading.mode with
  | .braced _ _ => none
  | .name outer letters =>
    if isQuoted outer then none
    else some (String.ofList (substitute environment reading outer letters).done.reverse)
  | mode => if isQuoted mode then none else some (String.ofList reading.done.reverse)

end Reading

/-- Read a value. -/
def value? (environment : Environment) (characters : List Char) : Option String := do
  let reading ← characters.foldlM (Reading.step? environment) {}
  reading.finish? environment

/-- The variable that the name behind a dollar sign belongs to. -/
def mentionedName : List Char → String
  | '\x7b' :: rest => Environment.owner (String.ofList (rest.takeWhile (· != '\x7d')))
  | rest => String.ofList (rest.takeWhile Text.isAlphanumeric)

/-- The variables that a text may mention. -/
def mentioned : List Char → List String
  | [] => []
  | '$' :: rest => mentionedName rest :: mentioned rest
  | _ :: rest => mentioned rest

end AccountPanel.EnvFile
