import AccountPanel.Json.Expected

/-!
# Written forms of JSON strings

A character of a string may stand for itself or be written as an escape: a letter of its own for
some, a code unit in hexadecimal digits of either case, or a pair of such units for a character
outside the first plane. This module says what the written forms of a string are. Reading any of
them gives the string, wherever it stands and whatever follows it, and ends right behind it.
-/

namespace AccountPanel.Json

/-! ## Written forms -/

/-- The hexadecimal digits by value, in lower case. -/
def lowerDigits : List Char := "0123456789abcdef".toList

/-- The hexadecimal digits by value, in upper case. -/
def upperDigits : List Char := "0123456789ABCDEF".toList

/-- Is the character a hexadecimal digit with this value? -/
def IsDigitOf (value : Nat) (digit : Char) : Prop :=
  lowerDigits[value]? = some digit ∨ upperDigits[value]? = some digit

instance (value : Nat) (digit : Char) : Decidable (IsDigitOf value digit) :=
  inferInstanceAs (Decidable (_ ∨ _))

/-- The written forms of a code unit, the digit of the highest value first. -/
inductive WrittenUnit (unit : Nat) : List Char → Prop where
  | digits {first second third fourth : Char} :
      IsDigitOf (unit / 0x1000) first → IsDigitOf (unit / 0x100 % 0x10) second →
      IsDigitOf (unit / 0x10 % 0x10) third → IsDigitOf (unit % 0x10) fourth →
      WrittenUnit unit [first, second, third, fourth]

/-- The letters that stand for a character behind a backslash. -/
def letterEscapes : List (Char × Char) :=
  [('"', '"'), ('\\', '\\'), ('/', '/'), ('b', '\x08'), ('f', '\x0c'), ('n', '\n'), ('r', '\r'),
    ('t', '\t')]

/-- The first unit of the surrogate pair of a code point outside the first plane. -/
def highSurrogate (code : Nat) : Nat := 0xD800 + (code - 0x10000) / 0x400

/-- The second unit of the surrogate pair of a code point outside the first plane. -/
def lowSurrogate (code : Nat) : Nat := 0xDC00 + (code - 0x10000) % 0x400

/-- The written forms of a character of a string. -/
inductive WrittenChar (character : Char) : List Char → Prop where
  /-- All but control characters, the quotation mark and the backslash may stand for themselves. -/
  | plain : 0x20 ≤ character.toNat → character ≠ '"' → character ≠ '\\' →
      WrittenChar character [character]
  | letter {letter : Char} : (letter, character) ∈ letterEscapes →
      WrittenChar character ['\\', letter]
  | unit {unit : List Char} : WrittenUnit character.toNat unit →
      WrittenChar character ('\\' :: 'u' :: unit)
  | pair {high low : List Char} : 0x10000 ≤ character.toNat →
      WrittenUnit (highSurrogate character.toNat) high →
      WrittenUnit (lowSurrogate character.toNat) low →
      WrittenChar character ('\\' :: 'u' :: high ++ '\\' :: 'u' :: low)

/-- The written forms of the characters of a string. -/
inductive WrittenChars : List Char → List Char → Prop where
  | nil : WrittenChars [] []
  | cons {character : Char} {characters first rest : List Char} : WrittenChar character first →
      WrittenChars characters rest → WrittenChars (character :: characters) (first ++ rest)

/-- Is a text free of control characters, quotation marks and backslashes? -/
def isPlain (characters : List Char) : Bool :=
  characters.all fun character =>
    0x20 ≤ character.toNat && character != '"' && character != '\\'

/-- A plain text may stand as it is. -/
theorem writtenChars_self {characters : List Char} (plain : isPlain characters = true) :
    WrittenChars characters characters := by
  induction characters with
  | nil => exact .nil
  | cons character characters ih =>
      simp only [isPlain, List.all_cons, Bool.and_eq_true, decide_eq_true_iff, bne_iff_ne] at plain
      rcases plain with ⟨⟨⟨visible, noQuote⟩, noSlash⟩, rest⟩
      exact .cons (.plain visible noQuote noSlash) (ih rest)

/-- The written forms of a string, between its quotation marks. -/
def WrittenString (content : String) (written : List Char) : Prop :=
  ∃ inside, WrittenChars content.toList inside ∧ written = '"' :: inside ++ ['"']

/-! ## Places -/

/-- The place behind characters. -/
def Position.passAll (position : Position) (characters : List Char) : Position :=
  characters.foldl Position.pass position

namespace Position

variable (position : Position)

@[simp] theorem passAll_nil : position.passAll [] = position := rfl

@[simp] theorem passAll_cons (character : Char) (characters : List Char) :
    position.passAll (character :: characters) = (position.pass character).passAll characters :=
  rfl

@[simp] theorem passAll_append (front behind : List Char) :
    position.passAll (front ++ behind) = (position.passAll front).passAll behind :=
  List.foldl_append

theorem into_zero (rest : List Char) : Position.into 0 rest position = position := by
  cases rest with
  | nil => rfl
  | cons character rest =>
      have size := character.utf8Size_pos
      rw [Position.into, if_neg (by omega)]
      rfl

/-- The number of octets of characters. -/
def octetCount : List Char → Nat
  | [] => 0
  | character :: characters => character.utf8Size + octetCount characters

/-- As many octets into a text as some characters have is behind these characters. -/
theorem into_append (characters rest : List Char) :
    Position.into (octetCount characters) (characters ++ rest) position =
      position.passAll characters := by
  induction characters generalizing position with
  | nil => exact into_zero position rest
  | cons character characters ih =>
      rw [octetCount, List.cons_append, Position.into, if_pos (Nat.le_add_right _ _),
        Nat.add_sub_cancel_left, ih, passAll_cons]

end Position

/-! ## Digits -/

theorem hexValue?_of_isDigitOf {value : Nat} {digit : Char} (isDigit : IsDigitOf value digit) :
    hexValue? digit = some value ∧ digit.utf8Size = 1 := by
  have table : ∀ digits ∈ [lowerDigits, upperDigits], ∀ value < 16, ∀ digit,
      digits[value]? = some digit → hexValue? digit = some value ∧ digit.utf8Size = 1 := by
    intro digits member value small digit found
    have read : ∀ digits ∈ [lowerDigits, upperDigits], ∀ value < 16,
        (digits[value]?.bind hexValue?) = some value ∧
          digits[value]?.map Char.utf8Size = some 1 := by decide
    have entry := read digits member value small
    rw [found] at entry
    exact ⟨entry.1, Option.some.inj entry.2⟩
  rcases isDigit with lower | upper
  · have small := (List.getElem?_eq_some_iff.mp lower).1
    exact table lowerDigits (by simp) value small digit lower
  · have small := (List.getElem?_eq_some_iff.mp upper).1
    exact table upperDigits (by simp) value small digit upper

namespace WrittenUnit

variable {unit : Nat} {written : List Char}

theorem fourDigits?_append (spelled : WrittenUnit unit written) (rest : List Char) :
    fourDigits? (written ++ rest) = some (unit, rest) := by
  cases spelled with
  | digits first second third fourth =>
      have value : ((unit / 0x1000 * 16 + unit / 0x100 % 0x10) * 16 + unit / 0x10 % 0x10) * 16 +
          unit % 0x10 = unit := by omega
      simp only [List.cons_append, List.nil_append, fourDigits?,
        (hexValue?_of_isDigitOf first).1, (hexValue?_of_isDigitOf second).1,
        (hexValue?_of_isDigitOf third).1, (hexValue?_of_isDigitOf fourth).1]
      exact congrArg (fun unit => some (unit, rest)) value

theorem octetCount_eq (spelled : WrittenUnit unit written) :
    Position.octetCount written = 4 := by
  cases spelled with
  | digits first second third fourth =>
      simp only [Position.octetCount, (hexValue?_of_isDigitOf first).2,
        (hexValue?_of_isDigitOf second).2, (hexValue?_of_isDigitOf third).2,
        (hexValue?_of_isDigitOf fourth).2]

theorem codeUnit_append (spelled : WrittenUnit unit written) (rest : List Char)
    (position : Position) :
    Cursor.codeUnit ⟨written ++ rest, position⟩ = .ok (unit, ⟨rest, position.passAll written⟩) := by
  rw [Cursor.codeUnit]
  simp only [spelled.fourDigits?_append rest]
  rw [Cursor.positionAfter, ← spelled.octetCount_eq, Position.into_append]

end WrittenUnit

/-! ## Escapes -/

namespace Cursor

variable (rest : List Char) (position : Position)

@[simp] theorem peek?_cons (character : Char) :
    (Cursor.mk (character :: rest) position).peek? = some character := rfl

@[simp] theorem advance_cons (character : Char) :
    (Cursor.mk (character :: rest) position).advance = ⟨rest, position.pass character⟩ := rfl

theorem expectInEscape_cons (character : Char) :
    expectInEscape ⟨character :: rest, position⟩ character =
      .ok ⟨rest, position.pass character⟩ := by
  simp [expectInEscape]

end Cursor

/-- A character is no surrogate. -/
theorem isNoSurrogate (character : Char) :
    character.toNat < 0xD800 ∨ 0xDFFF < character.toNat ∧ character.toNat < 0x110000 :=
  character.valid

theorem simpleEscape?_of_mem {letter character : Char}
    (member : (letter, character) ∈ letterEscapes) :
    letter ≠ 'u' ∧ simpleEscape? letter = some character := by
  simp only [letterEscapes, List.mem_cons, Prod.mk.injEq, List.not_mem_nil, or_false] at member
  rcases member with ⟨rfl, rfl⟩ | ⟨rfl, rfl⟩ | ⟨rfl, rfl⟩ | ⟨rfl, rfl⟩ | ⟨rfl, rfl⟩ | ⟨rfl, rfl⟩ |
    ⟨rfl, rfl⟩ | ⟨rfl, rfl⟩ <;> exact ⟨by decide, rfl⟩

theorem escape_letter {letter character : Char} (member : (letter, character) ∈ letterEscapes)
    (rest : List Char) (position : Position) :
    Cursor.escape ⟨letter :: rest, position⟩ =
      .ok (character, ⟨rest, position.pass letter⟩) := by
  rcases simpleEscape?_of_mem member with ⟨noUnit, found⟩
  rw [Cursor.escape]
  split
  next absent => cases absent
  next taken => exact absurd (Option.some.inj taken) noUnit
  next other taken =>
    cases taken
    simp only [found, Cursor.advance_cons]

theorem escape_unit {character : Char} {unit : List Char}
    (spelled : WrittenUnit character.toNat unit) (rest : List Char) (position : Position) :
    Cursor.escape ⟨'u' :: unit ++ rest, position⟩ =
      .ok (character, ⟨rest, position.passAll ('u' :: unit)⟩) := by
  have noSurrogate := isNoSurrogate character
  simp only [Cursor.escape, List.cons_append, Cursor.peek?_cons, Cursor.advance_cons,
    Cursor.codePoint, spelled.codeUnit_append, bind, Except.bind]
  rw [if_neg (by omega), if_neg (by omega), Char.ofNat_toNat, Position.passAll_cons]

theorem surrogatePair_eq {character : Char} (beyond : 0x10000 ≤ character.toNat) :
    Cursor.surrogatePair (highSurrogate character.toNat) (lowSurrogate character.toNat) =
      character := by
  have code : 0x10000 + (highSurrogate character.toNat - 0xD800) * 0x400 +
      (lowSurrogate character.toNat - 0xDC00) = character.toNat := by
    simp only [highSurrogate, lowSurrogate]
    omega
  rw [Cursor.surrogatePair, code, Char.ofNat_toNat]

theorem escape_pair {character : Char} {high low : List Char} (beyond : 0x10000 ≤ character.toNat)
    (first : WrittenUnit (highSurrogate character.toNat) high)
    (second : WrittenUnit (lowSurrogate character.toNat) low) (rest : List Char)
    (position : Position) :
    Cursor.escape ⟨'u' :: high ++ '\\' :: 'u' :: low ++ rest, position⟩ =
      .ok (character, ⟨rest, position.passAll ('u' :: high ++ '\\' :: 'u' :: low)⟩) := by
  have noSurrogate := isNoSurrogate character
  have highBounds : 0xD800 ≤ highSurrogate character.toNat ∧
      highSurrogate character.toNat ≤ 0xDBFF := by
    simp only [highSurrogate]
    omega
  have lowBounds : 0xDC00 ≤ lowSurrogate character.toNat ∧
      lowSurrogate character.toNat ≤ 0xDFFF := by
    simp only [lowSurrogate]
    omega
  simp only [Cursor.escape, List.cons_append, List.append_assoc, Cursor.peek?_cons,
    Cursor.advance_cons, Cursor.codePoint, Cursor.lowSurrogate, first.codeUnit_append,
    second.codeUnit_append, Cursor.expectInEscape_cons, bind, Except.bind]
  rw [if_neg (by omega), if_pos highBounds, if_pos lowBounds, surrogatePair_eq beyond]
  simp

/-! ## Strings -/

theorem WrittenChar.stringOnto_append {character : Char} {written : List Char}
    (spelled : WrittenChar character written) (rest : List Char) (position : Position)
    (done : List Char) :
    Cursor.stringOnto ⟨written ++ rest, position⟩ done =
      Cursor.stringOnto ⟨rest, position.passAll written⟩ (character :: done) := by
  -- Behind a backslash the reader goes on with what the escape stands for.
  have escaped : ∀ {escape : List Char},
      Cursor.escape ⟨escape ++ rest, position.pass '\\'⟩ =
          .ok (character, ⟨rest, (position.pass '\\').passAll escape⟩) →
        Cursor.stringOnto ⟨'\\' :: (escape ++ rest), position⟩ done =
          Cursor.stringOnto ⟨rest, (position.pass '\\').passAll escape⟩ (character :: done) := by
    intro escape read
    rw [Cursor.stringOnto]
    split
    next absent => cases absent
    next taken => cases taken
    next taken =>
      split
      next failed => rw [Cursor.advance_cons, read] at failed; cases failed
      next found =>
        rw [Cursor.advance_cons, read] at found
        cases found
        rfl
    next noSlash taken => exact absurd (Option.some.inj taken).symm noSlash
  cases spelled with
  | plain visible noQuote noSlash =>
      rw [List.singleton_append, Cursor.stringOnto]
      split
      next absent => cases absent
      next taken => exact absurd (Option.some.inj taken) noQuote
      next taken => exact absurd (Option.some.inj taken) noSlash
      next other _ _ taken =>
        cases taken
        rw [if_neg (by simpa [isControl] using visible)]
        rfl
  | letter member => exact escaped (escape_letter member rest (position.pass '\\'))
  | unit unit => exact escaped (escape_unit unit rest (position.pass '\\'))
  | pair beyond first second =>
      exact escaped (escape_pair beyond first second rest (position.pass '\\'))

theorem WrittenChars.stringOnto_append {characters written : List Char}
    (spelled : WrittenChars characters written) (rest : List Char) (position : Position)
    (done : List Char) :
    Cursor.stringOnto ⟨written ++ '"' :: rest, position⟩ done =
      .ok (String.ofList (done.reverse ++ characters),
        ⟨rest, (position.passAll written).pass '"'⟩) := by
  induction spelled generalizing position done with
  | nil =>
      rw [List.nil_append, Cursor.stringOnto]
      split
      next absent => cases absent
      next => simp
      next taken => cases taken
      next noQuote _ taken => exact absurd (Option.some.inj taken).symm noQuote
  | cons first _ ih =>
      rw [List.append_assoc, first.stringOnto_append, ih]
      simp

namespace WrittenString

variable {content : String} {written : List Char}

/-- A written string starts with a quotation mark. Behind it, reading takes the rest. -/
theorem exists_string_eq (spelled : WrittenString content written) :
    ∃ behind, written = '"' :: behind ∧ ∀ rest position,
      Cursor.string ⟨behind ++ rest, position⟩ =
        .ok (content, ⟨rest, position.passAll behind⟩) := by
  rcases spelled with ⟨inside, characters, rfl⟩
  refine ⟨inside ++ ['"'], rfl, ?_⟩
  intro rest position
  rw [Cursor.string, List.append_assoc, List.singleton_append, characters.stringOnto_append]
  simp

end WrittenString

end AccountPanel.Json
