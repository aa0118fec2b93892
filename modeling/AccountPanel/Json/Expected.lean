import AccountPanel.Json.Skipped
import AccountPanel.Text.Quoted

/-!
# Values of an expected kind

A value of another kind than the expected one is read far enough to name it in the error.
-/

namespace AccountPanel.Json.Cursor

/-- Stop at a value of another kind than the expected one. -/
def wrongKind {α : Type} (cursor : Cursor) (expected : String) : Except Error α :=
  match cursor.peek? with
  | some 'n' => do
    (← cursor.advance.word ['u', 'l', 'l']).failHere (.kind "null" expected)
  | some 't' => do
    (← cursor.advance.word ['r', 'u', 'e']).failHere (.kind "boolean \x60true\x60" expected)
  | some 'f' => do
    (← cursor.advance.word ['a', 'l', 's', 'e']).failHere
      (.kind "boolean \x60false\x60" expected)
  | some '-' => do
    let (number, behind) ← cursor.advance.number true
    behind.failHere (.kind number.describe expected)
  | some '"' => do
    let (text, behind) ← cursor.advance.string
    behind.failHere (.kind ("string " ++ Text.quoted text) expected)
  | some '[' => cursor.failHere (.kind "sequence" expected)
  | some '\x7b' => cursor.failHere (.kind "map" expected)
  | some character =>
    if character.isDigit then do
      let (number, behind) ← cursor.number false
      behind.failHere (.kind number.describe expected)
    else cursor.failNext .valueExpected
  | none => cursor.failNext .valueExpected

/-- Take a string and the space before it. -/
def text (cursor : Cursor) : Except Error (String × Cursor) :=
  let cursor := cursor.skipSpace
  match cursor.peek? with
  | none => cursor.failNext (.endInside .value)
  | some '"' => cursor.advance.string
  | some _ => cursor.wrongKind "a string"

/-- Go on to the next element of a list: `true` and the cursor at the element, or `false` and the
cursor behind the list. -/
def nextElement (cursor : Cursor) (first : Bool) : Except Error (Bool × Cursor) :=
  let cursor := cursor.skipSpace
  match cursor.peek? with
  | none => cursor.failNext (.endInside .list)
  | some character =>
    if character = ']' then .ok (false, cursor.advance)
    else if first then .ok (true, cursor)
    else if character = ',' then
      let cursor := cursor.advance.skipSpace
      match cursor.peek? with
      | none => cursor.failNext (.endInside .value)
      | some ']' => cursor.failNext .trailingComma
      | some _ => .ok (true, cursor)
    else cursor.failNext (.commaOrEndExpected ']')

/-- Take the opening quote of the name of a field. -/
def fieldStart (cursor : Cursor) : Except Error (Bool × Cursor) :=
  match cursor.peek? with
  | none => cursor.failNext (.endInside .value)
  | some '"' => .ok (true, cursor.advance)
  | some '\x7d' => cursor.failNext .trailingComma
  | some _ => cursor.failNext .keyExpected

/-- Go on to the next field of an object: `true` and the cursor behind the opening quote of its
name, or `false` and the cursor behind the object. -/
def nextField (cursor : Cursor) (first : Bool) : Except Error (Bool × Cursor) :=
  let cursor := cursor.skipSpace
  match cursor.peek? with
  | none => cursor.failNext (.endInside .object)
  | some character =>
    if character = '\x7d' then .ok (false, cursor.advance)
    else if first then cursor.fieldStart
    else if character = ',' then cursor.advance.skipSpace.fieldStart
    else cursor.failNext (.commaOrEndExpected '\x7d')

/-- Take the end of a list that holds as many elements as were asked for. -/
def endOfList (cursor : Cursor) : Except Error Cursor :=
  let cursor := cursor.skipSpace
  match cursor.peek? with
  | none => cursor.failNext (.endInside .list)
  | some ']' => .ok cursor.advance
  | some ',' =>
    let cursor := cursor.advance.skipSpace
    cursor.failNext (if cursor.peek? = some ']' then .trailingComma else .trailingCharacters)
  | some _ => cursor.failNext .trailingCharacters

/-- The cursor behind the end of an object if that is next, and behind the space otherwise. -/
def pastObjectEnd (cursor : Cursor) : Cursor :=
  let cursor := cursor.skipSpace
  if cursor.peek? = some '\x7d' then cursor.advance else cursor

/-- Make sure that nothing but space is left. -/
def endOfText (cursor : Cursor) : Except Error Unit :=
  let cursor := cursor.skipSpace
  if cursor.rest.isEmpty then .ok () else cursor.failNext .trailingCharacters

theorem wrongKind_ne_ok {α : Type} (cursor : Cursor) (expected : String) (value : α) :
    cursor.wrongKind expected ≠ .ok value := by
  intro taken
  unfold wrongKind at taken
  split at taken <;> try simp [bind_eq_ok_iff] at taken
  split at taken <;> simp [bind_eq_ok_iff] at taken

theorem size_text_lt {cursor behind : Cursor} {content : String}
    (taken : cursor.text = .ok (content, behind)) : behind.size < cursor.size := by
  have space := size_skipSpace_le cursor
  unfold text at taken
  simp only at taken
  split at taken
  · simp at taken
  · rename_i next
    exact Nat.lt_of_lt_of_le
      (Nat.lt_trans (size_string_lt taken) (size_advance_lt next)) space
  · exact absurd taken (wrongKind_ne_ok _ _ _)

theorem size_nextElement_le {cursor behind : Cursor} {first more : Bool}
    (taken : cursor.nextElement first = .ok (more, behind)) : behind.size ≤ cursor.size := by
  have space := size_skipSpace_le cursor
  have further := size_advance_le cursor.skipSpace
  have second := size_skipSpace_le cursor.skipSpace.advance
  unfold nextElement at taken
  simp only at taken
  split at taken
  · simp at taken
  · split at taken
    · simp only [Except.ok.injEq, Prod.mk.injEq] at taken
      rw [← taken.2]
      omega
    · split at taken
      · simp only [Except.ok.injEq, Prod.mk.injEq] at taken
        rw [← taken.2]
        omega
      · split at taken
        · split at taken
          · simp at taken
          · simp at taken
          · simp only [Except.ok.injEq, Prod.mk.injEq] at taken
            rw [← taken.2]
            omega
        · simp at taken

theorem size_fieldStart_le {cursor behind : Cursor} {more : Bool}
    (taken : cursor.fieldStart = .ok (more, behind)) : behind.size ≤ cursor.size := by
  unfold fieldStart at taken
  split at taken
  · simp at taken
  · simp only [Except.ok.injEq, Prod.mk.injEq] at taken
    exact taken.2 ▸ size_advance_le cursor
  · simp at taken
  · simp at taken

theorem size_nextField_le {cursor behind : Cursor} {first more : Bool}
    (taken : cursor.nextField first = .ok (more, behind)) : behind.size ≤ cursor.size := by
  have space := size_skipSpace_le cursor
  have further := size_advance_le cursor.skipSpace
  have second := size_skipSpace_le cursor.skipSpace.advance
  unfold nextField at taken
  simp only at taken
  split at taken
  · simp at taken
  · split at taken
    · simp only [Except.ok.injEq, Prod.mk.injEq] at taken
      rw [← taken.2]
      omega
    · split at taken
      · exact Nat.le_trans (size_fieldStart_le taken) space
      · split at taken
        · have := size_fieldStart_le taken
          omega
        · simp at taken

theorem size_endOfList_le {cursor behind : Cursor} (taken : cursor.endOfList = .ok behind) :
    behind.size ≤ cursor.size := by
  unfold endOfList at taken
  simp only at taken
  split at taken
  · simp at taken
  · simp only [Except.ok.injEq] at taken
    exact taken ▸ Nat.le_trans (size_advance_le _) (size_skipSpace_le cursor)
  · simp at taken
  · simp at taken

end AccountPanel.Json.Cursor
