import AccountPanel.Text.Utf8

/-!
# Percent encoding

Every octet of a text but the ASCII letters, the digits and `-`, `_`, `.`, `~` is written as a
percent sign and two upper-case hexadecimal digits. Reading turns each such triple into its octet
and keeps a percent sign that two hexadecimal digits do not follow.
-/

namespace AccountPanel.Percent

/-- The octets that stand for themselves. -/
def isUnreserved (octet : UInt8) : Bool :=
  let character := Char.ofNat octet.toNat
  character.isAlphanum || character == '-' || character == '_' || character == '.' ||
    character == '~'

/-- The upper-case hexadecimal digit of a value below sixteen. -/
def hexDigit (value : Nat) : Char :=
  if value < 10 then Char.ofNat ('0'.toNat + value) else Char.ofNat ('A'.toNat + (value - 10))

/-- The written form of one octet. -/
def encodeOctet (octet : UInt8) : List Char :=
  if isUnreserved octet then [Char.ofNat octet.toNat]
  else ['%', hexDigit (octet.toNat / 16), hexDigit (octet.toNat % 16)]

/-- The written form of a text. -/
def encode (text : String) : String :=
  String.ofList ((Text.Utf8.encode text.toList).flatMap encodeOctet)

/-- The value of a hexadecimal digit of either case. -/
def hexValue? (octet : UInt8) : Option Nat :=
  let code := octet.toNat
  if 0x30 ≤ code ∧ code ≤ 0x39 then some (code - 0x30)
  else if 0x41 ≤ code ∧ code ≤ 0x46 then some (code - 0x41 + 10)
  else if 0x61 ≤ code ∧ code ≤ 0x66 then some (code - 0x61 + 10)
  else none

/-- The octet that a triple at the start of `octets` stands for, with what follows the triple. -/
def triple? : List UInt8 → Option (UInt8 × List UInt8)
  | 0x25 :: high :: low :: rest =>
    match hexValue? high, hexValue? low with
    | some highValue, some lowValue => some (UInt8.ofNat (highValue * 16 + lowValue), rest)
    | _, _ => none
  | _ => none

theorem length_lt_of_triple? {octets : List UInt8} {octet : UInt8} {rest : List UInt8}
    (found : triple? octets = some (octet, rest)) : rest.length < octets.length := by
  unfold triple? at found
  split at found
  · split at found
    · simp only [Option.some.injEq, Prod.mk.injEq] at found
      obtain ⟨_, rfl⟩ := found
      simp only [List.length_cons]
      omega
    · simp at found
  · simp at found

/-- Decode `octets` behind the octets that are done, the last one first. -/
def decodeOnto (done : List UInt8) (octets : List UInt8) : List UInt8 :=
  match octets with
  | [] => done.reverse
  | octet :: rest =>
    match _taken : triple? (octet :: rest) with
    | some (decoded, behind) => decodeOnto (decoded :: done) behind
    | none => decodeOnto (octet :: done) rest
termination_by octets.length
decreasing_by
  · exact length_lt_of_triple? _taken
  · simp

/-- Replace each triple by its octet. -/
def decode (octets : List UInt8) : List UInt8 :=
  decodeOnto [] octets

end AccountPanel.Percent
