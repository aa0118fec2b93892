import AccountPanel.Text.Utf8

/-!
# Texts without control sequences

A terminal takes some characters as commands: the controls, and the sequences that an escape
starts. On a stream that is no terminal they are left out of a text, line breaks and tabs apart.
-/

namespace AccountPanel.Text

/-- How far into a control sequence a text is. -/
inductive ControlSequence where
  /-- Outside of all sequences. -/
  | outside
  /-- Behind an escape. -/
  | escape
  /-- Behind an escape and some spaces or marks, before the character that ends the sequence. -/
  | marked
  /-- Behind `ESC [`. -/
  | parameters
  /-- Behind `ESC P`, where the parameters of a device string start. -/
  | deviceStart
  /-- Among the parameters of a device string. -/
  | deviceParameters
  /-- Among the marks behind the parameters of a device string. -/
  | deviceMarks
  /-- In a string that the string terminator ends. -/
  | string
  /-- Behind `ESC ]`, in a command that the bell ends. -/
  | command
  deriving Repr, DecidableEq

namespace ControlSequence

/-- Is the code among those from `first` to `last`? -/
def within (first last code : Nat) : Bool := first ≤ code && code ≤ last

/-- Is the octet of the string terminator part of a character? -/
def hasTerminator (character : Char) : Bool := (Utf8.encode [character]).contains 0x9C

/-- Where a text is behind one more character that is not shown. Cancel, substitute and escape act
everywhere. -/
def pass (sequence : ControlSequence) (character : Char) : ControlSequence :=
  let code := character.toNat
  if code = 0x18 ∨ code = 0x1A then .outside
  else if code = 0x1B then .escape
  else match sequence with
  | .outside => .outside
  | .escape =>
    if character = '[' then .parameters
    else if character = ']' then .command
    else if character = 'P' then .deviceStart
    else if character = 'X' ∨ character = '^' ∨ character = '_' then .string
    else if within 0x20 0x2F code then .marked
    else if within 0x30 0x7E code then .outside
    else .escape
  | .marked => if within 0x30 0x7E code then .outside else .marked
  | .parameters => if within 0x40 0x7E code then .outside else .parameters
  | .deviceStart =>
    if within 0x20 0x2F code then .deviceMarks
    else if within 0x30 0x3F code then .deviceParameters
    else if within 0x40 0x7E code then .string
    else .deviceStart
  | .deviceParameters =>
    if within 0x20 0x2F code then .deviceMarks
    else if within 0x3C 0x7E code then .string
    else .deviceParameters
  | .deviceMarks => if within 0x30 0x7E code then .string else .deviceMarks
  | .string => if hasTerminator character then .outside else .string
  | .command => if code = 7 then .outside else .command

/-- Does a sequence let tabs and line breaks through? -/
def admitsLayout : ControlSequence → Bool
  | .escape | .marked | .parameters => true
  | _ => false

end ControlSequence

/-- Is the character a tab, a line feed, a form feed or a carriage return? -/
def isLayout (character : Char) : Bool :=
  character == '\t' || character == '\n' || character == '\x0c' || character == '\r'

/-- Is the character shown outside of all sequences? -/
def isShown (character : Char) : Bool :=
  isLayout character || (0x20 ≤ character.toNat && character != '\x7f')

/-- The characters that are shown. A tab or a line break inside a sequence suspends it: what
follows is shown up to the next control, which takes the sequence up again unless a character
beyond ASCII has come in between. -/
def shownFrom (sequence : ControlSequence) (suspended : Bool) : List Char → List Char
  | [] => []
  | character :: rest =>
    if (suspended || sequence == .outside) && isShown character then
      character ::
        shownFrom (if character.toNat < 0x80 then sequence else .outside) suspended rest
    else if sequence.admitsLayout && isLayout character then
      character :: shownFrom sequence true rest
    else shownFrom (sequence.pass character) false rest

/-- The text without controls and control sequences. -/
def withoutControls (text : String) : String :=
  String.ofList (shownFrom .outside false text.toList)

end AccountPanel.Text
