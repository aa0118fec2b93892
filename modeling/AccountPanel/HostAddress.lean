/-!
# Host addresses

The hosts that can be bound to: four decimal numbers with points between them, or eight groups of
hexadecimal digits in square brackets, of which one run may be left out and the last two may be
written as four decimal numbers. Names are not looked up.
-/

namespace AccountPanel.HostAddress

/-- A decimal number below 256 without needless zeros at the start of a text, and what follows
it. -/
def octet? (text : List Char) : Option (Nat × List Char) :=
  let digits := text.takeWhile Char.isDigit
  let value := digits.foldl (fun value digit => value * 10 + (digit.toNat - '0'.toNat)) 0
  if digits.isEmpty ∨ 3 < digits.length ∨ 255 < value ∨
      (digits.head? = some '0' ∧ 1 < digits.length) then none
  else some (value, text.drop digits.length)

/-- One character at the start of a text, and what follows it. -/
def character? (expected : Char) : List Char → Option (List Char)
  | character :: rest => if character = expected then some rest else none
  | [] => none

/-- Four decimal numbers at the start of a text, and what follows them. -/
def decimals? (text : List Char) : Option (List Char) := do
  let (_, rest) ← octet? text
  let (_, rest) ← octet? (← character? '.' rest)
  let (_, rest) ← octet? (← character? '.' rest)
  let (_, rest) ← octet? (← character? '.' rest)
  return rest

/-- Is the character a hexadecimal digit? -/
def isHexDigit (character : Char) : Bool :=
  character.isDigit || ('a' ≤ character && character ≤ 'f') ||
    ('A' ≤ character && character ≤ 'F')

/-- A group of one to four hexadecimal digits at the start of a text, and what follows it. -/
def group? (text : List Char) : Option (List Char) :=
  let digits := (text.takeWhile isHexDigit).length
  if digits = 0 ∨ 4 < digits then none else some (text.drop digits)

/-- Groups read from the start of a text: how many, whether the last two were four decimal
numbers, and what follows them. -/
structure Groups where
  count : Nat
  decimal : Bool
  rest : List Char

/-- Read up to `limit` groups behind `count` others. -/
def readGroups (text : List Char) (count : Nat) : Nat → Groups
  | 0 => ⟨count, false, text⟩
  | limit + 1 =>
    let start := if count = 0 then some text else character? ':' text
    let decimal := if limit = 0 then none else start.bind decimals?
    match decimal with
    | some rest => ⟨count + 2, true, rest⟩
    | none =>
      match start.bind group? with
      | some rest => readGroups rest (count + 1) limit
      | none => ⟨count, false, text⟩

/-- Eight groups at the start of a text, one run of which may be left out, and what follows. -/
def hexadecimals? (text : List Char) : Option (List Char) :=
  let head := readGroups text 0 8
  if head.count = 8 then some head.rest
  else if head.decimal then none
  else do
    let rest ← character? ':' (← character? ':' head.rest)
    return (readGroups rest 0 (7 - head.count)).rest

/-- A zone at the start of a text, a percent sign and a number of 32 bits, and what follows. A
text may have none. -/
def zone? (text : List Char) : Option (List Char) :=
  match text with
  | '%' :: rest =>
    let digits := rest.takeWhile Char.isDigit
    let value := digits.foldl (fun value digit => value * 10 + (digit.toNat - '0'.toNat)) 0
    if digits.isEmpty ∨ Nat.pow 2 32 ≤ value then none else some (rest.drop digits.length)
  | _ => some text

/-- Is the text a host that can be bound to? -/
def isValid (host : String) : Bool :=
  match host.toList with
  | '[' :: rest =>
    match (hexadecimals? rest).bind zone? with
    | some [']'] => true
    | _ => false
  | text => decimals? text == some []

end AccountPanel.HostAddress
