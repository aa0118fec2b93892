/-!
# The shortest decimal that reads back

A binary number stands for every real number that rounds to it. Its shortest decimal is the one
with the fewest digits in that interval, and among several the nearest to the number itself. All
arithmetic is exact.
-/

namespace AccountPanel.Decimal

/-- The positive number `significand * 2 ^ exponent`. Below a power of two the distance to the
next smaller number is only half as large, which `narrow` records. -/
structure Binary where
  significand : Nat
  exponent : Int
  narrow : Bool
  deriving Repr, DecidableEq

/-- The decimal `digits * 10 ^ exponent`. -/
structure Numeral where
  digits : Nat
  exponent : Int
  deriving Repr, DecidableEq

/-- The positive fraction `numerator / denominator`. -/
structure Fraction where
  numerator : Nat
  denominator : Nat

/-- The fraction scaled by a power of ten or of two. -/
def Fraction.scale (fraction : Fraction) (base : Nat) (exponent : Int) : Fraction :=
  if 0 ≤ exponent then
    ⟨fraction.numerator * Nat.pow base exponent.toNat, fraction.denominator⟩
  else
    ⟨fraction.numerator, fraction.denominator * Nat.pow base (-exponent).toNat⟩

/-- The greatest exponent of ten whose power is not above the fraction, for fractions that are not
below `10 ^ (-400)`. -/
def Fraction.magnitude (fraction : Fraction) : Int :=
  (toString (fraction.numerator * Nat.pow 10 400 / fraction.denominator)).length - 401

namespace Binary

/-- The number in quarters of its last place, so that the ends of its interval are whole. -/
def quarters (number : Binary) (offset : Int) : Fraction :=
  (Fraction.mk (4 * number.significand + offset).toNat 1).scale 2 (number.exponent - 2)

/-- The number itself. -/
def value (number : Binary) : Fraction := number.quarters 0

/-- Does `digits * 10 ^ exponent` round to the number? The ends of the interval do so if the
significand is even. -/
def admits (number : Binary) (decimal : Numeral) : Bool :=
  let low := number.quarters (if number.narrow then -1 else -2)
  let high := number.quarters 2
  let point := (Fraction.mk decimal.digits 1).scale 10 decimal.exponent
  let above := point.numerator * low.denominator
  let aboveBound := low.numerator * point.denominator
  let below := point.numerator * high.denominator
  let belowBound := high.numerator * point.denominator
  if number.significand % 2 = 0 then aboveBound ≤ above && below ≤ belowBound
  else aboveBound < above && below < belowBound

/-- The nearest decimal with `count` digits that rounds to the number, if there is one. -/
def withDigits? (number : Binary) (count : Nat) : Option Numeral :=
  let exponent := number.value.magnitude - (count : Int) + 1
  let scaled := number.value.scale 10 (-exponent)
  let floor := scaled.numerator / scaled.denominator
  let lower : Numeral := ⟨floor, exponent⟩
  let upper : Numeral := ⟨floor + 1, exponent⟩
  let remainder := scaled.numerator % scaled.denominator
  let lowerFirst :=
    2 * remainder < scaled.denominator ||
      (2 * remainder == scaled.denominator && floor % 2 == 0)
  let candidates := if lowerFirst then [lower, upper] else [upper, lower]
  candidates.find? number.admits

/-- The shortest decimal of the number. -/
def shortest (number : Binary) : Numeral :=
  ((List.range 17).findSome? fun index => number.withDigits? (index + 1)).getD ⟨0, 0⟩

end Binary

/-- Decode a positive finite number from the bits of its double-precision form. -/
def Binary.ofBits (bits : Nat) : Binary :=
  let fraction : Nat := bits % Nat.pow 2 52
  let exponent : Nat := bits / Nat.pow 2 52 % Nat.pow 2 11
  if exponent = 0 then ⟨fraction, -1074, false⟩
  else ⟨Nat.pow 2 52 + fraction, (exponent : Int) - 1075, fraction == 0 && 1 < exponent⟩

/-- The written form of a decimal that is not zero: positional with up to four zeros behind the
point and up to sixteen digits before it, otherwise with an exponent and its sign. -/
def Numeral.write (decimal : Numeral) : String :=
  let digits := ((toString decimal.digits).toList.reverse.dropWhile (· == '0')).reverse
  let magnitude := (toString decimal.digits).length + decimal.exponent - 1
  let zeros (count : Nat) := List.replicate count '0'
  if 0 ≤ magnitude ∧ magnitude < 16 then
    let whole := magnitude.toNat + 1
    let after := digits.drop whole
    String.ofList ((digits ++ zeros (whole - digits.length)).take whole ++ ['.'] ++
      if after.isEmpty then ['0'] else after)
  else if -6 < magnitude ∧ magnitude < 0 then
    String.ofList (['0', '.'] ++ zeros ((-magnitude).toNat - 1) ++ digits)
  else
    let after := digits.drop 1
    String.ofList (digits.take 1 ++ (if after.isEmpty then [] else '.' :: after)) ++
      (if magnitude < 0 then "e-" else "e+") ++ toString magnitude.natAbs

/-- The written form of a finite double-precision number. -/
def writeFloat (number : Float) : String :=
  let bits := number.toBits.toNat
  let sign := if bits < Nat.pow 2 63 then "" else "-"
  let unsigned := bits % Nat.pow 2 63
  sign ++ if unsigned = 0 then "0.0" else (Binary.ofBits unsigned).shortest.write

end AccountPanel.Decimal
