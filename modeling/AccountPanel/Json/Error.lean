import AccountPanel.Json.Cursor

/-!
# What can be wrong with a JSON text

The faults of a JSON text, in its notation or in what it says, with the words for each.
-/

namespace AccountPanel.Json

/-- What was being read. -/
inductive Part where
  | list
  | object
  | string
  | value
  deriving Repr, DecidableEq

/-- The words for a part, with the article. -/
def Part.name : Part → String
  | .list => "a list"
  | .object => "an object"
  | .string => "a string"
  | .value => "a value"

/-- A fault of a JSON text. -/
inductive Fault where
  /-- The text ends inside a part. -/
  | endInside (part : Part)
  | colonExpected
  | commaOrEndExpected (closing : Char)
  | wordExpected
  | valueExpected
  | escape
  | number
  | numberOutOfRange
  | controlCharacter
  | keyExpected
  /-- A surrogate code unit without its partner. -/
  | loneSurrogate
  /-- The first half of a surrogate pair is not followed by an escape. -/
  | endOfEscape
  | trailingComma
  | trailingCharacters
  /-- A value of one kind where another kind is expected. -/
  | kind (found expected : String)
  /-- A list that is too short for a record. -/
  | shortRecord (length : Nat) (expected : String)
  | missingField (field : String)
  | duplicateField (field : String)
  deriving Repr, DecidableEq

/-- The words for a fault. -/
def Fault.message : Fault → String
  | .endInside part => "EOF while parsing " ++ part.name
  | .colonExpected => "expected \x60:\x60"
  | .commaOrEndExpected closing => "expected \x60,\x60 or \x60" ++ closing.toString ++ "\x60"
  | .wordExpected => "expected ident"
  | .valueExpected => "expected value"
  | .escape => "invalid escape"
  | .number => "invalid number"
  | .numberOutOfRange => "number out of range"
  | .controlCharacter =>
    "control character (\\u0000-\\u001F) found while parsing a string"
  | .keyExpected => "key must be a string"
  | .loneSurrogate => "lone leading surrogate in hex escape"
  | .endOfEscape => "unexpected end of hex escape"
  | .trailingComma => "trailing comma"
  | .trailingCharacters => "trailing characters"
  | .kind found expected => "invalid type: " ++ found ++ ", expected " ++ expected
  | .shortRecord length expected =>
    "invalid length " ++ toString length ++ ", expected " ++ expected
  | .missingField field => "missing field \x60" ++ field ++ "\x60"
  | .duplicateField field => "duplicate field \x60" ++ field ++ "\x60"

/-- A fault and where it was noticed. -/
structure Error where
  fault : Fault
  position : Position
  deriving Repr, DecidableEq

/-- The words for a fault and its place. -/
def Error.message (error : Error) : String :=
  error.fault.message ++ " at line " ++ toString error.position.line ++ " column " ++
    toString error.position.column

/-- Two readers in turn succeed together exactly if each succeeds. -/
theorem bind_eq_ok_iff {ε α β : Type} {first : Except ε α} {next : α → Except ε β} {result : β} :
    (first >>= next) = .ok result ↔
      ∃ value, first = .ok value ∧ next value = .ok result := by
  cases first <;> simp [bind, Except.bind]

namespace Cursor

/-- Stop where the cursor is. -/
def failHere {α : Type} (cursor : Cursor) (fault : Fault) : Except Error α :=
  .error ⟨fault, cursor.position⟩

/-- Stop that many octets further. -/
def failAfter {α : Type} (cursor : Cursor) (octets : Nat) (fault : Fault) : Except Error α :=
  .error ⟨fault, cursor.positionAfter octets⟩

/-- Stop because of the next character. -/
def failNext {α : Type} (cursor : Cursor) (fault : Fault) : Except Error α :=
  cursor.failAfter 1 fault

/-- Take a word that has begun, such as the rest of `null`. -/
def word (cursor : Cursor) : List Char → Except Error Cursor
  | [] => .ok cursor
  | letter :: letters =>
    match cursor.peek? with
    | none => cursor.failHere (.endInside .value)
    | some character =>
      if character = letter then cursor.advance.word letters
      else cursor.failNext .wordExpected

@[simp] theorem failHere_ne_ok {α : Type} (cursor : Cursor) (fault : Fault) (value : α) :
    cursor.failHere fault ≠ .ok value := by
  simp [failHere]

@[simp] theorem failAfter_ne_ok {α : Type} (cursor : Cursor) (octets : Nat) (fault : Fault)
    (value : α) : cursor.failAfter octets fault ≠ .ok value := by
  simp [failAfter]

@[simp] theorem failNext_ne_ok {α : Type} (cursor : Cursor) (fault : Fault) (value : α) :
    cursor.failNext fault ≠ .ok value := by
  simp [failNext]

theorem size_word_le {cursor behind : Cursor} {letters : List Char}
    (taken : cursor.word letters = .ok behind) : behind.size ≤ cursor.size := by
  induction letters generalizing cursor with
  | nil =>
    simp only [word, Except.ok.injEq] at taken
    exact taken ▸ Nat.le_refl _
  | cons letter letters hypothesis =>
    simp only [word] at taken
    split at taken
    · simp at taken
    · split at taken
      · exact Nat.le_trans (hypothesis taken) (size_advance_le cursor)
      · simp at taken

end Cursor

end AccountPanel.Json
