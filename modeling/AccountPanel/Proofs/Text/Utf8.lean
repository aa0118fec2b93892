import AccountPanel.Text.Utf8

/-!
# Reading encoded text

Scanning the octets of a text finds its characters in order and no malformed part, so reading gives
the text back.
-/

namespace AccountPanel.Text.Utf8

/-- The continuation octet that carries six bits. -/
def tailOctet (bits : Nat) : UInt8 := UInt8.ofNat (bits + 0x80)

theorem toNat_tailOctet {bits : Nat} (small : bits < 64) :
    (tailOctet bits).toNat = bits + 0x80 := by
  rw [tailOctet, UInt8.toNat_ofNat', Nat.mod_eq_of_lt (by omega)]

theorem continuation_contains_tailOctet {bits : Nat} (small : bits < 64) :
    continuation.contains (tailOctet bits) = true := by
  simp only [OctetRange.contains, continuation, toNat_tailOctet small, Bool.and_eq_true,
    decide_eq_true_eq]
  omega

/-! ## One octet at a time -/

theorem step_start {octet : UInt8} {payload : Nat} {awaited : List OctetRange}
    (starts : lead octet = .start payload awaited) (found : List (Option Char)) :
    Scan.step ⟨found, 0, []⟩ octet = ⟨found, payload, awaited⟩ := by
  simp [Scan.step, Scan.begin, starts]

theorem step_continue {bits : Nat} {range next : OctetRange} (small : bits < 64)
    (inside : range.contains (tailOctet bits) = true) (found : List (Option Char))
    (payload : Nat) (awaited : List OctetRange) :
    Scan.step ⟨found, payload, range :: next :: awaited⟩ (tailOctet bits) =
      ⟨found, payload * 64 + bits, next :: awaited⟩ := by
  simp [Scan.step, inside, toNat_tailOctet small]

theorem step_finish {bits : Nat} {range : OctetRange} (small : bits < 64)
    (inside : range.contains (tailOctet bits) = true) (found : List (Option Char))
    (payload : Nat) :
    Scan.step ⟨found, payload, [range]⟩ (tailOctet bits) =
      ⟨some (Char.ofNat (payload * 64 + bits)) :: found, 0, []⟩ := by
  simp [Scan.step, inside, toNat_tailOctet small]

/-! ## What the first octet announces -/

theorem lead_whole {code : Nat} (ascii : code < 0x80) : lead (UInt8.ofNat code) = .whole := by
  have value : (UInt8.ofNat code).toNat = code := by
    rw [UInt8.toNat_ofNat', Nat.mod_eq_of_lt (by omega)]
  simp [lead, value, ascii]

theorem lead_two {high : Nat} (low : 2 ≤ high) (bound : high < 32) :
    lead (UInt8.ofNat (high + 0xC0)) = .start high [continuation] := by
  have value : (UInt8.ofNat (high + 0xC0)).toNat = high + 0xC0 := by
    rw [UInt8.toNat_ofNat', Nat.mod_eq_of_lt (by omega)]
  simp only [lead, value]
  rw [if_neg (by omega), if_neg (by omega), if_pos (by omega), Nat.add_sub_cancel]

/-- Of three octets the second is bounded below in an overlong form and above before the
surrogates. -/
theorem lead_three {high next : Nat} (bound : high < 16) (nextBound : next < 64)
    (notOverlong : high = 0 → 0x20 ≤ next) (notSurrogate : high = 13 → next < 0x20) :
    ∃ range, lead (UInt8.ofNat (high + 0xE0)) = .start high [range, continuation] ∧
      range.contains (tailOctet next) = true := by
  have value : (UInt8.ofNat (high + 0xE0)).toNat = high + 0xE0 := by
    rw [UInt8.toNat_ofNat', Nat.mod_eq_of_lt (by omega)]
  have ordinary := continuation_contains_tailOctet nextBound
  simp only [lead, value]
  rw [if_neg (by omega), if_neg (by omega), if_neg (by omega)]
  by_cases first : high = 0
  · refine ⟨⟨0xA0, 0xBF⟩, by simp [first], ?_⟩
    simp only [OctetRange.contains, toNat_tailOctet nextBound, Bool.and_eq_true,
      decide_eq_true_eq]
    omega
  · rw [if_neg (by omega)]
    by_cases surrogates : high = 13
    · refine ⟨⟨0x80, 0x9F⟩, by simp [surrogates], ?_⟩
      simp only [OctetRange.contains, toNat_tailOctet nextBound, Bool.and_eq_true,
        decide_eq_true_eq]
      omega
    · refine ⟨continuation, ?_, ordinary⟩
      rw [if_neg (by omega), if_pos (by omega), Nat.add_sub_cancel]

/-- Of four octets the second is bounded below in an overlong form and above at the last code
point. -/
theorem lead_four {high next : Nat} (bound : high < 5) (nextBound : next < 64)
    (notOverlong : high = 0 → 0x10 ≤ next) (inUnicode : high = 4 → next < 0x10) :
    ∃ range, lead (UInt8.ofNat (high + 0xF0)) =
        .start high [range, continuation, continuation] ∧
      range.contains (tailOctet next) = true := by
  have value : (UInt8.ofNat (high + 0xF0)).toNat = high + 0xF0 := by
    rw [UInt8.toNat_ofNat', Nat.mod_eq_of_lt (by omega)]
  have ordinary := continuation_contains_tailOctet nextBound
  simp only [lead, value]
  rw [if_neg (by omega), if_neg (by omega), if_neg (by omega), if_neg (by omega),
    if_neg (by omega), if_neg (by omega)]
  by_cases first : high = 0
  · refine ⟨⟨0x90, 0xBF⟩, by simp [first], ?_⟩
    simp only [OctetRange.contains, toNat_tailOctet nextBound, Bool.and_eq_true,
      decide_eq_true_eq]
    omega
  · rw [if_neg (by omega)]
    by_cases last : high = 4
    · refine ⟨⟨0x80, 0x8F⟩, by simp [last], ?_⟩
      simp only [OctetRange.contains, toNat_tailOctet nextBound, Bool.and_eq_true,
        decide_eq_true_eq]
      omega
    · refine ⟨continuation, ?_, ordinary⟩
      rw [if_pos (by omega), Nat.add_sub_cancel]

/-! ## Whole characters -/

/-- The octets of a character, scanned where a character may start, add this character. -/
theorem foldl_step_utf8EncodeChar (character : Char) (found : List (Option Char)) :
    (String.utf8EncodeChar character).foldl Scan.step ⟨found, 0, []⟩ =
      ⟨some character :: found, 0, []⟩ := by
  have valid := character.valid
  simp only [UInt32.isValidChar, Nat.isValidChar] at valid
  have whole : Char.ofNat character.val.toNat = character := Char.ofNat_toNat character
  simp only [String.utf8EncodeChar]
  generalize character.val.toNat = code at valid whole ⊢
  split
  next one =>
    simp [Scan.step, Scan.begin, lead_whole (show code < 0x80 by omega),
      Nat.mod_eq_of_lt (show code < 256 by omega), whole]
  next more =>
    split
    next two =>
      have high : code / 64 % 32 = code / 64 := Nat.mod_eq_of_lt (by omega)
      have low : code % 64 < 64 := Nat.mod_lt code (by omega)
      simp only [List.foldl_cons, List.foldl_nil, high]
      rw [step_start (lead_two (by omega) (by omega)) found, ← tailOctet,
        step_finish low (continuation_contains_tailOctet low),
        show code / 64 * 64 + code % 64 = code by omega, whole]
    next more =>
      split
      next three =>
        have high : code / 4096 % 16 = code / 4096 := Nat.mod_eq_of_lt (by omega)
        have middle : code / 64 % 64 < 64 := Nat.mod_lt _ (by omega)
        have low : code % 64 < 64 := Nat.mod_lt _ (by omega)
        obtain ⟨range, starts, inside⟩ := lead_three (show code / 4096 < 16 by omega) middle
          (by omega) (by omega)
        simp only [List.foldl_cons, List.foldl_nil, high]
        rw [step_start starts found, ← tailOctet, ← tailOctet, step_continue middle inside,
          step_finish low (continuation_contains_tailOctet low),
          show (code / 4096 * 64 + code / 64 % 64) * 64 + code % 64 = code by omega, whole]
      next four =>
        have high : code / 262144 % 8 = code / 262144 := Nat.mod_eq_of_lt (by omega)
        have second : code / 4096 % 64 < 64 := Nat.mod_lt _ (by omega)
        have third : code / 64 % 64 < 64 := Nat.mod_lt _ (by omega)
        have low : code % 64 < 64 := Nat.mod_lt _ (by omega)
        obtain ⟨range, starts, inside⟩ := lead_four (show code / 262144 < 5 by omega) second
          (by omega) (by omega)
        simp only [List.foldl_cons, List.foldl_nil, high]
        rw [step_start starts found, ← tailOctet, ← tailOctet, ← tailOctet,
          step_continue second inside,
          step_continue third (continuation_contains_tailOctet third),
          step_finish low (continuation_contains_tailOctet low),
          show ((code / 262144 * 64 + code / 4096 % 64) * 64 + code / 64 % 64) * 64 +
            code % 64 = code by omega, whole]

theorem foldl_step_encode (characters : List Char) (found : List (Option Char)) :
    (encode characters).foldl Scan.step ⟨found, 0, []⟩ =
      ⟨(characters.map some).reverse ++ found, 0, []⟩ := by
  induction characters generalizing found with
  | nil => rfl
  | cons character characters ih =>
      rw [encode, List.flatMap_cons, List.foldl_append, foldl_step_utf8EncodeChar, ← encode, ih]
      simp

/-- A scan of an encoded text finds its characters. -/
theorem scan_encode (characters : List Char) : scan (encode characters) = characters.map some := by
  rw [scan, foldl_step_encode]
  simp [Scan.finish]

@[simp] theorem decodeLossy_encode (characters : List Char) :
    decodeLossy (encode characters) = characters := by
  simp [decodeLossy, scan_encode, Function.comp_def]

@[simp] theorem decode?_encode (characters : List Char) :
    decode? (encode characters) = some characters := by
  simp [decode?, scan_encode]

end AccountPanel.Text.Utf8
