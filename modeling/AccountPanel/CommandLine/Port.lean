/-!
# Port numbers

A port is a whole number from 0 to 65535, read as a signed number of 64 bits first.
-/

namespace AccountPanel.CommandLine

/-- Why a text is not a port. -/
inductive PortError where
  | empty
  | invalidDigit
  | tooLarge
  | tooSmall
  | outOfRange (number : Int)
  deriving Repr, DecidableEq

/-- The words for an error. -/
def PortError.message : PortError → String
  | .empty => "cannot parse integer from empty string"
  | .invalidDigit => "invalid digit found in string"
  | .tooLarge => "number too large to fit in target type"
  | .tooSmall => "number too small to fit in target type"
  | .outOfRange number => toString number ++ " is not in 0..=65535"

/-- Read the digits of a number behind `value`, up to the first fault. -/
def readDigits (negative : Bool) (value : Nat) : List Char → Except PortError Int
  | [] => .ok (if negative then -value else value)
  | character :: rest =>
    if character.isDigit then
      let next := value * 10 + (character.toNat - '0'.toNat)
      if negative ∧ Nat.pow 2 63 < next then .error .tooSmall
      else if !negative ∧ Nat.pow 2 63 ≤ next then .error .tooLarge
      else readDigits negative next rest
    else .error .invalidDigit

/-- Read a signed number of 64 bits. -/
def readInteger (text : String) : Except PortError Int :=
  match text.toList with
  | [] => .error .empty
  | '-' :: digits => if digits.isEmpty then .error .invalidDigit else readDigits true 0 digits
  | '+' :: digits => if digits.isEmpty then .error .invalidDigit else readDigits false 0 digits
  | digits => readDigits false 0 digits

/-- Read a port. -/
def readPort (text : String) : Except PortError Nat := do
  let number ← readInteger text
  if 0 ≤ number ∧ number ≤ 65535 then return number.toNat
  else .error (.outOfRange number)

end AccountPanel.CommandLine
