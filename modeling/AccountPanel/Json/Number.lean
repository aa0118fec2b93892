import AccountPanel.Decimal.Shortest
import AccountPanel.Json.Error

/-!
# Numbers in a JSON text

The notation of a number, and the value that it stands for: a whole number if it is written as one
and fits in 64 bits, otherwise a double-precision number. A value is only ever named in an error.
-/

namespace AccountPanel.Json

/-- The exponent of a number: its sign and digits, and the cursor at the first digit. -/
structure Exponent where
  negative : Bool
  digits : List Char
  start : Cursor

/-- The digits of a number without its sign. A number without a point has no fraction. -/
structure NumberText where
  whole : List Char
  fraction : List Char
  exponent : Option Exponent

/-- The value of a number. -/
inductive Number where
  | natural (value : Nat)
  | negative (magnitude : Nat)
  | float (value : Float)

/-- The words for a number in an error. -/
def Number.describe : Number → String
  | .natural value => "integer \x60" ++ toString value ++ "\x60"
  | .negative magnitude => "integer \x60-" ++ toString magnitude ++ "\x60"
  | .float value => "floating point \x60" ++ Decimal.writeFloat value ++ "\x60"

/-- The value of a digit. -/
def digitValue (digit : Char) : Nat := digit.toNat - '0'.toNat

namespace Cursor

/-- Take the digits before the point. A zero stands alone. `atEnd` is the fault of a text that ends
before the first digit. -/
def wholeDigits (cursor : Cursor) (atEnd : Fault) : Except Error (List Char × Cursor) :=
  match cursor.peek? with
  | none => cursor.failHere atEnd
  | some '0' =>
    if (cursor.advance.peek?.map Char.isDigit).getD false then cursor.advance.failNext .number
    else .ok (['0'], cursor.advance)
  | some character =>
    if character.isDigit then .ok (cursor.span Char.isDigit) else cursor.failNext .number

/-- Take the point and the digits behind it, if there is a point. -/
def fractionDigits (cursor : Cursor) (atEnd : Fault) : Except Error (List Char × Cursor) :=
  if cursor.peek? = some '.' then
    let (digits, behind) := cursor.advance.span Char.isDigit
    if digits.isEmpty then
      behind.failNext (if behind.peek?.isNone then atEnd else .number)
    else .ok (digits, behind)
  else .ok ([], cursor)

/-- Take the exponent, if there is one. -/
def exponent (cursor : Cursor) (atEnd : Fault) : Except Error (Option Exponent × Cursor) :=
  if cursor.peek? = some 'e' ∨ cursor.peek? = some 'E' then
    let sign := cursor.advance.peek?
    let start :=
      if sign = some '+' ∨ sign = some '-' then cursor.advance.advance else cursor.advance
    match start.peek? with
    | none => start.failHere atEnd
    | some character =>
      if character.isDigit then
        let (digits, behind) := start.span Char.isDigit
        .ok (some ⟨sign = some '-', digits, start⟩, behind)
      else start.failNext .number
  else .ok (none, cursor)

/-- Take the digits of a number behind its sign. -/
def numberText (cursor : Cursor) (atEnd : Fault) : Except Error (NumberText × Cursor) := do
  let (whole, behind) ← cursor.wholeDigits atEnd
  let (fraction, behind) ← behind.fractionDigits atEnd
  let (exponent, behind) ← behind.exponent atEnd
  return (⟨whole, fraction, exponent⟩, behind)

/-- Pass over a number behind its sign. -/
def skipNumber (cursor : Cursor) : Except Error Cursor := do
  return (← cursor.numberText .number).2

theorem size_wholeDigits_lt {cursor behind : Cursor} {atEnd : Fault} {digits : List Char}
    (taken : cursor.wholeDigits atEnd = .ok (digits, behind)) : behind.size < cursor.size := by
  unfold wholeDigits at taken
  split at taken
  · simp at taken
  · rename_i next
    split at taken
    · simp at taken
    · simp only [Except.ok.injEq, Prod.mk.injEq] at taken
      exact taken.2 ▸ size_advance_lt next
  · rename_i next
    split at taken
    · rename_i digit
      simp only [Except.ok.injEq] at taken
      have shorter := size_span_lt next digit
      rwa [taken] at shorter
    · simp at taken

theorem size_fractionDigits_le {cursor behind : Cursor} {atEnd : Fault} {digits : List Char}
    (taken : cursor.fractionDigits atEnd = .ok (digits, behind)) : behind.size ≤ cursor.size := by
  unfold fractionDigits at taken
  split at taken
  · simp only at taken
    split at taken
    · simp at taken
    · simp only [Except.ok.injEq, Prod.mk.injEq] at taken
      exact taken.2 ▸ Nat.le_trans (size_span_le _ _) (size_advance_le cursor)
  · simp only [Except.ok.injEq, Prod.mk.injEq] at taken
    exact taken.2 ▸ Nat.le_refl _

theorem size_exponent_le {cursor behind : Cursor} {atEnd : Fault} {found : Option Exponent}
    (taken : cursor.exponent atEnd = .ok (found, behind)) : behind.size ≤ cursor.size := by
  have first := size_advance_le cursor
  have second := size_advance_le cursor.advance
  unfold exponent at taken
  split at taken
  · simp only at taken
    split at taken
    · simp at taken
    · split at taken
      · simp only [Except.ok.injEq, Prod.mk.injEq] at taken
        rw [← taken.2]
        refine Nat.le_trans (size_span_le _ _) ?_
        split <;> omega
      · simp at taken
  · simp only [Except.ok.injEq, Prod.mk.injEq] at taken
    exact taken.2 ▸ Nat.le_refl _

theorem size_numberText_lt {cursor behind : Cursor} {atEnd : Fault} {text : NumberText}
    (taken : cursor.numberText atEnd = .ok (text, behind)) : behind.size < cursor.size := by
  simp only [numberText, bind_eq_ok_iff, pure, Except.pure, Except.ok.injEq,
    Prod.mk.injEq] at taken
  obtain ⟨⟨_, first⟩, whole, ⟨_, second⟩, fraction, ⟨_, third⟩, exponent, _, rfl⟩ := taken
  exact Nat.lt_of_le_of_lt (size_exponent_le exponent)
    (Nat.lt_of_le_of_lt (size_fractionDigits_le fraction) (size_wholeDigits_lt whole))

theorem size_skipNumber_lt {cursor behind : Cursor} (taken : cursor.skipNumber = .ok behind) :
    behind.size < cursor.size := by
  simp only [skipNumber, bind_eq_ok_iff, pure, Except.pure, Except.ok.injEq] at taken
  obtain ⟨⟨_, _⟩, text, rfl⟩ := taken
  exact size_numberText_lt text

end Cursor

/-- Append digits to a value while it fits in 64 bits, and the digits that do not. -/
def appendDigits (value : Nat) : List Char → Nat × List Char
  | [] => (value, [])
  | digit :: digits =>
    let next := value * 10 + digitValue digit
    if next < Nat.pow 2 64 then appendDigits next digits else (value, digit :: digits)

/-- How many digits it takes to make an exponent too large to be kept, if they do. -/
def digitsToOverflow? (value count : Nat) : List Char → Option Nat
  | [] => none
  | digit :: digits =>
    let next := value * 10 + digitValue digit
    if Nat.pow 2 31 ≤ next then some (count + 1) else digitsToOverflow? next (count + 1) digits

/-- The double-precision number nearest to a power of ten up to 308. -/
def powerOfTen (exponent : Nat) : Float := Float.ofScientific 1 false exponent

/-- Divide by powers of ten, the greatest one first. -/
def divideByPowerOfTen (value : Float) (exponent : Nat) : Float :=
  if exponent ≤ 308 then value / powerOfTen exponent
  else if value == 0 then value
  else divideByPowerOfTen (value / powerOfTen 308) (exponent - 308)
termination_by exponent

/-- Scale a whole number by a power of ten, unless it gets out of range. -/
def scale? (significand : Nat) (exponent : Int) : Option Float :=
  let value := (UInt64.ofNat significand).toFloat
  if exponent < 0 then some (divideByPowerOfTen value (-exponent).toNat)
  else if exponent ≤ 308 then
    let scaled := value * powerOfTen exponent.toNat
    if scaled.isInf then none else some scaled
  else if value == 0 then some value
  else none

/-- The value of a whole number with its sign. Zero has a sign only as a double-precision number,
and so does a number below the range of 64 bits. -/
def wholeValue (negative : Bool) (significand : Nat) : Number :=
  if !negative then .natural significand
  else if 0 < significand ∧ significand ≤ Nat.pow 2 63 then .negative significand
  else .float (-(UInt64.ofNat significand).toFloat)

namespace NumberText

/-- The value of a number. `behind` is the cursor behind it. -/
def value (text : NumberText) (negative : Bool) (behind : Cursor) : Except Error Number :=
  let (wholePart, dropped) := appendDigits 0 text.whole
  let (significand, unused) := appendDigits wholePart text.fraction
  let scale : Int := dropped.length - (text.fraction.length - unused.length : Nat)
  let signed (value : Float) : Number := .float (if negative then -value else value)
  let scaled (exponent : Int) : Except Error Number :=
    match scale? significand exponent with
    | some value => .ok (signed value)
    | none => behind.failHere .numberOutOfRange
  match text.exponent with
  | none =>
    if text.fraction.isEmpty ∧ dropped.isEmpty then .ok (wholeValue negative significand)
    else scaled scale
  | some exponent =>
    match digitsToOverflow? 0 0 exponent.digits with
    | some count =>
      if significand ≠ 0 ∧ !exponent.negative then
        exponent.start.failAfter count .numberOutOfRange
      else .ok (signed 0)
    | none =>
      let magnitude : Int := (appendDigits 0 exponent.digits).1
      scaled (if exponent.negative then scale - magnitude else scale + magnitude)

end NumberText

/-- Take a number behind its sign. -/
def Cursor.number (cursor : Cursor) (negative : Bool) : Except Error (Number × Cursor) := do
  let (text, behind) ← cursor.numberText (.endInside .value)
  return (← text.value negative behind, behind)

end AccountPanel.Json
