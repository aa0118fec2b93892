import AccountPanel.Proofs.Urlencoded

/-!
# Reading percent encodings

A text is read back from its percent encoding, so two texts with one encoding are the same. An
encoding is made of few characters, and no separator of addresses is among them.
-/

namespace AccountPanel.Percent

/-- The text that a written form stands for, unless its octets are those of no text. -/
def text? (written : List Char) : Option String :=
  (Text.Utf8.decode? (decode (Text.Utf8.encode written))).map String.ofList

/-- The written form of an octet is read before what follows it. -/
theorem decode_encodeOctet_append (octet : UInt8) (rest : List UInt8) :
    decode (Text.Utf8.encode (encodeOctet octet) ++ rest) = octet :: decode rest := by
  rcases Urlencoded.encode_encodeOctet_cases octet with
    ⟨written, ordinary⟩ | ⟨high, low, highValue, lowValue, written, highDigit, lowDigit, value⟩
  · have notPercent : octet ≠ 0x25 := fun same => ordinary (by simp [same, Urlencoded.marks])
    rw [written, List.singleton_append, decode_cons_of_ne notPercent]
  · have triple := triple?_of_hexValue? highDigit lowDigit rest
    rw [value] at triple
    rw [written]
    exact decode_of_triple? triple

theorem decode_flatMap_encodeOctet (octets : List UInt8) :
    decode (Text.Utf8.encode (octets.flatMap encodeOctet)) = octets := by
  induction octets with
  | nil => exact decode_nil
  | cons octet octets ih =>
      rw [List.flatMap_cons, Text.Utf8.encode, List.flatMap_append]
      exact (decode_encodeOctet_append octet _).trans (congrArg (octet :: ·) ih)

/-- A text is read back from its encoding. -/
theorem text?_encode (text : String) : text? (encode text).toList = some text := by
  rw [text?, encode, String.toList_ofList, decode_flatMap_encodeOctet, Text.Utf8.decode?_encode,
    Option.map_some, String.ofList_toList]

theorem encode_injective : Function.Injective encode := by
  intro text other same
  exact Option.some.inj ((text?_encode text).symm.trans (same ▸ text?_encode other))

theorem encode_append (front behind : String) :
    encode (front ++ behind) = encode front ++ encode behind := by
  rw [encode, String.toList_append, Text.Utf8.encode, List.flatMap_append, List.flatMap_append,
    String.ofList_append]
  rfl

/-- The characters of an encoding: ASCII letters and digits, the four marks that stand for
themselves, and the percent sign. -/
def isWritten (character : Char) : Bool :=
  character.isAlphanum || ['-', '_', '.', '~', '%'].contains character

theorem all_isWritten_encode (text : String) : (encode text).toList.all isWritten = true := by
  apply Urlencoded.all_percentEncode
  apply Urlencoded.forall_octet
  decide +kernel

theorem slash_notMem_encode (text : String) : '/' ∉ (encode text).toList := by
  intro member
  have written := List.all_eq_true.mp (all_isWritten_encode text) '/' member
  exact absurd written (by decide)

end AccountPanel.Percent
