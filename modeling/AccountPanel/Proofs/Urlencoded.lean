import AccountPanel.Proofs.Text.Parts
import AccountPanel.Proofs.Text.Utf8
import AccountPanel.Urlencoded

/-!
# Written forms of fields

A list of fields has many written forms: an octet may stand for itself or be written as a triple
with digits of either case, and a space may be a plus sign. This module says what a written form is
and shows that reading any of them gives the fields back. The form that this library writes is one
of them.
-/

namespace AccountPanel

namespace Percent

/-! ## Decoding one step at a time -/

theorem decodeOnto_eq (done octets : List UInt8) :
    decodeOnto done octets = done.reverse ++ decode octets := by
  have general : ∀ length, ∀ octets : List UInt8, octets.length = length →
      ∀ done, decodeOnto done octets = done.reverse ++ decodeOnto [] octets := by
    intro length
    induction length using Nat.strongRecOn with
    | ind length ih =>
        intro octets measured done
        cases octets with
        | nil => simp [decodeOnto]
        | cons octet rest =>
            rw [decodeOnto, decodeOnto]
            split
            next decoded behind found =>
              have shorter := length_lt_of_triple? found
              rw [ih behind.length (by omega) behind rfl (decoded :: done),
                ih behind.length (by omega) behind rfl [decoded]]
              simp
            next =>
              have shorter : rest.length < length := by simp [← measured]
              rw [ih rest.length shorter rest rfl (octet :: done),
                ih rest.length shorter rest rfl [octet]]
              simp
  exact general octets.length octets rfl done

theorem triple?_of_hexValue? {high low : UInt8} {highValue lowValue : Nat}
    (highDigit : hexValue? high = some highValue) (lowDigit : hexValue? low = some lowValue)
    (rest : List UInt8) :
    triple? (0x25 :: high :: low :: rest) =
      some (UInt8.ofNat (highValue * 16 + lowValue), rest) := by
  simp only [triple?, highDigit, lowDigit]

@[simp] theorem decode_nil : decode [] = [] := by
  simp [decode, decodeOnto]

theorem decode_of_triple? {octets rest : List UInt8} {octet : UInt8}
    (found : triple? octets = some (octet, rest)) : decode octets = octet :: decode rest := by
  cases octets with
  | nil => simp [triple?] at found
  | cons first behind =>
      rw [decode, decodeOnto]
      split
      next decoded remaining taken =>
        rw [found] at taken
        cases taken
        simp [decodeOnto_eq]
      next taken => simp [found] at taken

theorem decode_cons_of_ne {octet : UInt8} (ordinary : octet ≠ 0x25) (rest : List UInt8) :
    decode (octet :: rest) = octet :: decode rest := by
  have absent : triple? (octet :: rest) = none := by
    unfold triple?
    split
    next equal => exact absurd (List.cons.inj equal).1 ordinary
    next => rfl
  rw [decode, decodeOnto]
  split
  next taken => simp [absent] at taken
  next => simp [decodeOnto_eq]

end Percent

namespace Urlencoded

/-- The octets that have a meaning of their own: the percent sign, the ampersand, the plus sign and
the equals sign. -/
def marks : List UInt8 := [0x25, 0x26, 0x2B, 0x3D]

/-- The written forms of the octets of a name or a value. -/
inductive WrittenPart : List UInt8 → List UInt8 → Prop where
  | nil : WrittenPart [] []
  /-- An octet without a meaning of its own may stand for itself. -/
  | plain {octet : UInt8} {octets written : List UInt8} :
      octet ∉ marks → WrittenPart octets written → WrittenPart (octet :: octets) (octet :: written)
  /-- A space may be a plus sign. -/
  | plus {octets written : List UInt8} :
      WrittenPart octets written → WrittenPart (0x20 :: octets) (0x2B :: written)
  /-- Any octet may be a triple. -/
  | triple {high low : UInt8} {highValue lowValue : Nat} {octets written : List UInt8} :
      Percent.hexValue? high = some highValue → Percent.hexValue? low = some lowValue →
      WrittenPart octets written →
      WrittenPart (UInt8.ofNat (highValue * 16 + lowValue) :: octets)
        (0x25 :: high :: low :: written)

/-- The written forms of a field. -/
def WrittenField (field : Field) (written : List UInt8) : Prop :=
  ∃ name value, WrittenPart (Text.Utf8.encode field.1.toList) name ∧
    WrittenPart (Text.Utf8.encode field.2.toList) value ∧ written = name ++ 0x3D :: value

/-- The written forms of a list of fields. -/
inductive Written : List Field → List UInt8 → Prop where
  | nil : Written [] []
  | one {field : Field} {written : List UInt8} : WrittenField field written →
      Written [field] written
  | cons {field next : Field} {fields : List Field} {written rest : List UInt8} :
      WrittenField field written → Written (next :: fields) rest →
      Written (field :: next :: fields) (written ++ 0x26 :: rest)

/-! ## Reading a written form -/

theorem hexValue?_eq_none_of_mem_marks {octet : UInt8} (mark : octet ∈ marks) :
    Percent.hexValue? octet = none := by
  simp only [marks, List.mem_cons, List.not_mem_nil, or_false] at mark
  rcases mark with rfl | rfl | rfl | rfl <;> rfl

theorem notMem_marks_of_hexValue? {octet : UInt8} {value : Nat}
    (digit : Percent.hexValue? octet = some value) : octet ∉ marks := by
  intro mark
  rw [hexValue?_eq_none_of_mem_marks mark] at digit
  cases digit

namespace WrittenPart

/-- Neither the sign between fields nor the sign between a name and its value occurs in a written
part. -/
theorem notMem_of_mem_separators {octets written : List UInt8} {separator : UInt8}
    (part : WrittenPart octets written) (separates : separator = 0x26 ∨ separator = 0x3D) :
    separator ∉ written := by
  have mark : separator ∈ marks := by
    rcases separates with rfl | rfl <;> decide
  induction part with
  | nil => exact List.not_mem_nil
  | plain ordinary _ ih =>
      intro member
      rcases List.mem_cons.mp member with rfl | later
      · exact ordinary mark
      · exact ih later
  | plus _ ih =>
      intro member
      rcases List.mem_cons.mp member with rfl | later
      · rcases separates with impossible | impossible <;> cases impossible
      · exact ih later
  | triple highDigit lowDigit _ ih =>
      intro member
      simp only [List.mem_cons] at member
      rcases member with rfl | rfl | rfl | later
      · rcases separates with impossible | impossible <;> cases impossible
      · exact notMem_marks_of_hexValue? highDigit mark
      · exact notMem_marks_of_hexValue? lowDigit mark
      · exact ih later

theorem decode_map_plus {octets written : List UInt8} (part : WrittenPart octets written) :
    Percent.decode (written.map fun octet => if octet = 0x2B then 0x20 else octet) = octets := by
  induction part with
  | nil => exact Percent.decode_nil
  | @plain octet _ _ ordinary _ ih =>
      have notPlus : octet ≠ 0x2B := fun equal => ordinary (by simp [equal, marks])
      have notPercent : octet ≠ 0x25 := fun equal => ordinary (by simp [equal, marks])
      rw [List.map_cons, if_neg notPlus, Percent.decode_cons_of_ne notPercent, ih]
  | plus _ ih =>
      rw [List.map_cons, if_pos rfl, Percent.decode_cons_of_ne (by decide), ih]
  | @triple high low _ _ _ _ highDigit lowDigit _ ih =>
      have highKept : high ≠ 0x2B :=
        fun equal => notMem_marks_of_hexValue? highDigit (by simp [equal, marks])
      have lowKept : low ≠ 0x2B :=
        fun equal => notMem_marks_of_hexValue? lowDigit (by simp [equal, marks])
      rw [List.map_cons, List.map_cons, List.map_cons, if_neg (by decide), if_neg highKept,
        if_neg lowKept,
        Percent.decode_of_triple? (Percent.triple?_of_hexValue? highDigit lowDigit _), ih]

theorem decodePart_eq {text : String} {written : List UInt8}
    (part : WrittenPart (Text.Utf8.encode text.toList) written) : decodePart written = text := by
  rw [decodePart, part.decode_map_plus, Text.Utf8.decodeLossy_encode, String.ofList_toList]

theorem append {front back frontWritten backWritten : List UInt8}
    (first : WrittenPart front frontWritten) (second : WrittenPart back backWritten) :
    WrittenPart (front ++ back) (frontWritten ++ backWritten) := by
  induction first with
  | nil => exact second
  | plain ordinary _ ih => exact .plain ordinary ih
  | plus _ ih => exact .plus ih
  | triple highDigit lowDigit _ ih => exact .triple highDigit lowDigit ih

end WrittenPart

namespace WrittenField

variable {field : Field} {written : List UInt8}

theorem notMem_ampersand (spelled : WrittenField field written) : 0x26 ∉ written := by
  rcases spelled with ⟨name, value, namePart, valuePart, rfl⟩
  simp only [List.mem_append, List.mem_cons, not_or]
  exact ⟨namePart.notMem_of_mem_separators (.inl rfl), by decide,
    valuePart.notMem_of_mem_separators (.inl rfl)⟩

theorem ne_nil (spelled : WrittenField field written) : written ≠ [] := by
  rcases spelled with ⟨name, value, -, -, rfl⟩
  simp

theorem decodeField_eq (spelled : WrittenField field written) : decodeField written = field := by
  rcases spelled with ⟨name, value, namePart, valuePart, rfl⟩
  have nameEnds : ∀ octet ∈ name, (octet != 0x3D) = true := by
    intro octet member
    have absent := namePart.notMem_of_mem_separators (.inr rfl)
    rw [bne_iff_ne]
    intro same
    subst same
    exact absent member
  have before : (name ++ 0x3D :: value).takeWhile (· != 0x3D) = name := by
    rw [List.takeWhile_append_of_pos nameEnds]
    simp
  have behind : ((name ++ 0x3D :: value).dropWhile (· != 0x3D)).drop 1 = value := by
    rw [List.dropWhile_append_of_pos nameEnds]
    simp
  simp only [decodeField, before, behind, namePart.decodePart_eq, valuePart.decodePart_eq]

end WrittenField

/-- Reading any written form gives the fields back. -/
theorem decode_of_written {fields : List Field} {written : List UInt8}
    (spelled : Written fields written) : decode written = fields := by
  induction spelled with
  | nil => rfl
  | one spelled =>
      simp [decode, Text.partsBetween_of_notMem spelled.notMem_ampersand, spelled.ne_nil,
        spelled.decodeField_eq]
  | cons spelled _ ih =>
      simp only [decode] at ih
      simp [decode, Text.partsBetween_append_cons_of_notMem spelled.notMem_ampersand,
        spelled.ne_nil, spelled.decodeField_eq, ih]

/-! ## The form that is written here -/

/-- What holds of every octet may be shown code by code. -/
theorem forall_octet {motive : UInt8 → Prop}
    (each : ∀ code < 256, motive (UInt8.ofNat code)) (octet : UInt8) : motive octet := by
  have this := each octet.toNat octet.toNat_lt
  rwa [UInt8.ofNat_toNat] at this

theorem utf8EncodeChar_of_isUnreserved (octet : UInt8) :
    Percent.isUnreserved octet = true →
      String.utf8EncodeChar (Char.ofNat octet.toNat) = [octet] ∧ octet ∉ marks := by
  revert octet
  apply forall_octet
  decide +kernel

theorem exists_utf8EncodeChar_hexDigit :
    ∀ value < 16, ∃ octet, String.utf8EncodeChar (Percent.hexDigit value) = [octet] ∧
      Percent.hexValue? octet = some value := by
  intro value small
  refine ⟨UInt8.ofNat (Percent.hexDigit value).toNat, ?_⟩
  revert value
  decide

/-- The two written forms of an octet: the octet itself or a triple. -/
theorem encode_encodeOctet_cases (octet : UInt8) :
    (Text.Utf8.encode (Percent.encodeOctet octet) = [octet] ∧ octet ∉ marks) ∨
      ∃ high low highValue lowValue,
        Text.Utf8.encode (Percent.encodeOctet octet) = [0x25, high, low] ∧
          Percent.hexValue? high = some highValue ∧ Percent.hexValue? low = some lowValue ∧
          UInt8.ofNat (highValue * 16 + lowValue) = octet := by
  by_cases unreserved : Percent.isUnreserved octet = true
  · rcases utf8EncodeChar_of_isUnreserved octet unreserved with ⟨same, ordinary⟩
    refine .inl ⟨?_, ordinary⟩
    simp only [Percent.encodeOctet, unreserved, if_true, Text.Utf8.encode, List.flatMap_cons,
      List.flatMap_nil, same, List.append_nil]
  · have bound := octet.toNat_lt
    obtain ⟨high, highWritten, highDigit⟩ :=
      exists_utf8EncodeChar_hexDigit (octet.toNat / 16) (by omega)
    obtain ⟨low, lowWritten, lowDigit⟩ :=
      exists_utf8EncodeChar_hexDigit (octet.toNat % 16) (by omega)
    have value : UInt8.ofNat (octet.toNat / 16 * 16 + octet.toNat % 16) = octet := by
      rw [Nat.div_add_mod', UInt8.ofNat_toNat]
    have percent : String.utf8EncodeChar '%' = [0x25] := rfl
    refine .inr ⟨high, low, _, _, ?_, highDigit, lowDigit, value⟩
    simp [Percent.encodeOctet, unreserved, Text.Utf8.encode, percent, highWritten, lowWritten]

theorem writtenPart_encodeOctet (octet : UInt8) :
    WrittenPart [octet] (Text.Utf8.encode (Percent.encodeOctet octet)) := by
  rcases encode_encodeOctet_cases octet with
    ⟨written, ordinary⟩ | ⟨high, low, highValue, lowValue, written, highDigit, lowDigit, value⟩
  · rw [written]
    exact .plain ordinary .nil
  · rw [written, ← value]
    exact .triple highDigit lowDigit .nil

theorem writtenPart_encode (text : String) :
    WrittenPart (Text.Utf8.encode text.toList) (Text.Utf8.encode (Percent.encode text).toList) := by
  rw [Percent.encode, String.toList_ofList]
  generalize Text.Utf8.encode text.toList = octets
  induction octets with
  | nil => exact .nil
  | cons octet octets ih =>
      rw [List.flatMap_cons, Text.Utf8.encode, List.flatMap_append]
      exact (writtenPart_encodeOctet octet).append ih

theorem writtenField_encodeField (field : Field) :
    WrittenField field (Text.Utf8.encode (encodeField field).toList) := by
  refine ⟨_, _, writtenPart_encode field.1, writtenPart_encode field.2, ?_⟩
  have equals : String.utf8EncodeChar '=' = [0x3D] := rfl
  simp [encodeField, Text.Utf8.encode, equals]

/-- What is written here is a written form. -/
theorem written_encode (fields : List Field) :
    Written fields (Text.Utf8.encode (encode fields).toList) := by
  induction fields with
  | nil => exact .nil
  | cons field fields ih =>
      cases fields with
      | nil => simpa [encode] using Written.one (writtenField_encodeField field)
      | cons next fields =>
          have ampersand : String.utf8EncodeChar '&' = [0x26] := rfl
          have joined := Written.cons (writtenField_encodeField field) ih
          simpa [encode, Text.Utf8.encode, ampersand] using joined

/-! ## The characters that are written here -/

section Characters

variable {passes : Char → Bool}
variable (octetsPass : ∀ octet, (Percent.encodeOctet octet).all passes = true)
include octetsPass

theorem all_percentEncode (text : String) : (Percent.encode text).toList.all passes = true := by
  rw [Percent.encode, String.toList_ofList, List.all_flatMap, List.all_eq_true]
  intro octet _
  exact octetsPass octet

theorem all_encodeField (equalsPasses : passes '=' = true) (field : Field) :
    (encodeField field).toList.all passes = true := by
  have equals : "=".toList.all passes = true := by simpa using equalsPasses
  rw [encodeField, String.toList_append, String.toList_append, List.all_append, List.all_append,
    all_percentEncode octetsPass, all_percentEncode octetsPass, equals]
  rfl

/-- A test that the written form of every octet and both separators pass is passed by all that is
written. -/
theorem all_encode (equalsPasses : passes '=' = true) (ampersandPasses : passes '&' = true)
    (fields : List Field) : (encode fields).toList.all passes = true := by
  have one := all_encodeField octetsPass equalsPasses
  induction fields with
  | nil => rfl
  | cons field fields ih =>
      cases fields with
      | nil => simpa [encode] using one field
      | cons next fields =>
          have joined : (encode (field :: next :: fields)).toList =
              (encodeField field).toList ++ '&' :: (encode (next :: fields)).toList := by
            simp [encode]
          rw [joined, List.all_append, one field, List.all_cons, ampersandPasses, ih]
          rfl

end Characters

/-- The characters of what is written here: ASCII letters and digits, the four marks that stand for
themselves, the percent sign, and the two separators. -/
def isWritable (character : Char) : Bool :=
  character.isAlphanum || ['-', '_', '.', '~', '%', '=', '&'].contains character

theorem all_isWritable_encode (fields : List Field) :
    (encode fields).toList.all isWritable = true := by
  apply all_encode
  · apply forall_octet
    decide +kernel
  · decide
  · decide

/-- Can a character be seen, and is it one of ASCII? -/
def isVisible (character : Char) : Bool := 0x20 < character.toNat && character.toNat < 0x7F

theorem all_isVisible_encode (fields : List Field) :
    (encode fields).toList.all isVisible = true := by
  apply all_encode
  · apply forall_octet
    decide +kernel
  · decide
  · decide

/-! ## Queries of links -/

/-- The query of a link is read as the fields that have a value. -/
theorem decode_query (fields : List Field) :
    decode (Text.Utf8.encode (query fields).toList) = fields.filter (! ·.2.isEmpty) :=
  decode_of_written (written_encode _)

example : query [("tab", "ssh-keys"), ("notice", ""), ("", "é =")] =
    "tab=ssh-keys&=%C3%A9%20%3D" := by
  decide

end Urlencoded

end AccountPanel
