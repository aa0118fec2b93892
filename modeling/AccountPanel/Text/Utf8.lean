/-!
# UTF-8

Texts as octets and back. Decoding scans the octets once and yields one item per character and one
item per maximal malformed part; a lenient reader shows a malformed part as U+FFFD, and a strict
reader refuses it.
-/

namespace AccountPanel.Text.Utf8

/-- The octets of a list of characters. -/
def encode (characters : List Char) : List UInt8 :=
  characters.flatMap String.utf8EncodeChar

/-- An inclusive range of octets. -/
structure OctetRange where
  low : Nat
  high : Nat

/-- Does the range hold this octet? -/
def OctetRange.contains (range : OctetRange) (octet : UInt8) : Bool :=
  range.low ≤ octet.toNat && octet.toNat ≤ range.high

/-- The range of an ordinary continuation octet. -/
def continuation : OctetRange := ⟨0x80, 0xBF⟩

/-- What an octet at the start of a character announces. -/
inductive Lead where
  /-- The octet is a character of its own. -/
  | whole
  /-- More octets follow, each in its range; `payload` holds the high bits of the character. -/
  | start (payload : Nat) (awaited : List OctetRange)
  /-- No character starts with this octet. -/
  | never

/-- Classify an octet at the start of a character. The ranges exclude overlong forms, surrogates
and code points above U+10FFFF. -/
def lead (octet : UInt8) : Lead :=
  let code := octet.toNat
  if code < 0x80 then .whole
  else if code < 0xC2 then .never
  else if code < 0xE0 then .start (code - 0xC0) [continuation]
  else if code = 0xE0 then .start 0 [⟨0xA0, 0xBF⟩, continuation]
  else if code = 0xED then .start 0xD [⟨0x80, 0x9F⟩, continuation]
  else if code < 0xF0 then .start (code - 0xE0) [continuation, continuation]
  else if code = 0xF0 then .start 0 [⟨0x90, 0xBF⟩, continuation, continuation]
  else if code < 0xF4 then .start (code - 0xF0) [continuation, continuation, continuation]
  else if code = 0xF4 then .start 4 [⟨0x80, 0x8F⟩, continuation, continuation]
  else .never

/-- A scan under way: the items found so far, the last one first, and the character that has been
started, if any. An item is a character, or `none` for a malformed part. -/
structure Scan where
  found : List (Option Char) := []
  payload : Nat := 0
  awaited : List OctetRange := []

/-- Take an octet where a character may start. -/
def Scan.begin (scan : Scan) (octet : UInt8) : Scan :=
  match lead octet with
  | .whole => ⟨some (Char.ofNat octet.toNat) :: scan.found, 0, []⟩
  | .start payload awaited => ⟨scan.found, payload, awaited⟩
  | .never => ⟨none :: scan.found, 0, []⟩

/-- Take one octet. An octet out of its range ends a malformed part and is then read afresh. -/
def Scan.step (scan : Scan) (octet : UInt8) : Scan :=
  match scan.awaited with
  | [] => scan.begin octet
  | range :: awaited =>
    if range.contains octet then
      let payload := scan.payload * 64 + (octet.toNat - 0x80)
      match awaited with
      | [] => ⟨some (Char.ofNat payload) :: scan.found, 0, []⟩
      | _ => ⟨scan.found, payload, awaited⟩
    else
      ({ scan with found := none :: scan.found }).begin octet

/-- The items of a finished scan in order. A character that never ended is a malformed part. -/
def Scan.finish (scan : Scan) : List (Option Char) :=
  match scan.awaited with
  | [] => scan.found.reverse
  | _ => (none :: scan.found).reverse

/-- The characters and malformed parts of a list of octets, in order. -/
def scan (octets : List UInt8) : List (Option Char) :=
  (octets.foldl Scan.step {}).finish

/-- Decode leniently: each malformed part reads as U+FFFD. -/
def decodeLossy (octets : List UInt8) : List Char :=
  (scan octets).map (·.getD '\uFFFD')

/-- Decode strictly: there is no answer if any part is malformed. -/
def decode? (octets : List UInt8) : Option (List Char) :=
  let items := scan octets
  if items.all Option.isSome then some (items.filterMap id) else none

end AccountPanel.Text.Utf8
