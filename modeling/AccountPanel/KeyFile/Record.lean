import AccountPanel.Json.Expected
import AccountPanel.Key

/-!
# Keys in a key file

A key is written as an object with the fields `name` and `key`, or as a list of the two texts.
Other fields of an object are passed over; a field that is missing or that comes twice is refused.
-/

namespace AccountPanel.KeyFile

open Json

/-- The fields of a key that have been read. -/
structure Fields where
  name : Option String := none
  text : Option String := none

/-- A field that a key has. -/
inductive Field where
  | name
  | text
  deriving Repr, DecidableEq

namespace Field

/-- How a field is called in a file. -/
def label : Field → String
  | .name => "name"
  | .text => "key"

/-- The field that a file calls so. -/
def ofLabel? (label : String) : Option Field :=
  [Field.name, Field.text].find? (·.label == label)

end Field

namespace Fields

/-- The content of a field, if it has been read. -/
def get? (fields : Fields) : Field → Option String
  | .name => fields.name
  | .text => fields.text

/-- The fields with one more. -/
def set (fields : Fields) (field : Field) (content : String) : Fields :=
  match field with
  | .name => { fields with name := some content }
  | .text => { fields with text := some content }

/-- The key with these fields, or the first field that is missing. -/
def toKey (fields : Fields) : Except Field Key :=
  match fields.name, fields.text with
  | none, _ => .error .name
  | some _, none => .error .text
  | some name, some text => .ok ⟨name, text⟩

end Fields

/-- Take the fields of a key that are left in an object, behind those that have been read. -/
def readFields (cursor : Cursor) (first : Bool) (fields : Fields) :
    Except Error (Key × Cursor) :=
  match _next : cursor.nextField first with
  | .error error => .error error
  | .ok (false, behind) =>
    match fields.toKey with
    | .ok key => .ok (key, behind)
    | .error missing => behind.failHere (.missingField missing.label)
  | .ok (true, inside) =>
    match _label : inside.string with
    | .error error => .error error
    | .ok (label, behind) =>
      match Field.ofLabel? label with
      | none =>
        match _skipped : behind.colon >>= Cursor.skipValue with
        | .error error => .error error
        | .ok behind => readFields behind false fields
      | some field =>
        if (fields.get? field).isSome then
          behind.pastObjectEnd.failHere (.duplicateField field.label)
        else
          match _content : behind.colon >>= Cursor.text with
          | .error error => .error error
          | .ok (content, behind) => readFields behind false (fields.set field content)
termination_by cursor.size
decreasing_by
  · have := Cursor.size_nextField_le _next
    have := Cursor.size_string_lt _label
    obtain ⟨_, colon, value⟩ := bind_eq_ok_iff.1 _skipped
    have := Cursor.size_colon_le colon
    have := Cursor.size_skipValue_lt value
    omega
  · have := Cursor.size_nextField_le _next
    have := Cursor.size_string_lt _label
    obtain ⟨_, colon, value⟩ := bind_eq_ok_iff.1 _content
    have := Cursor.size_colon_le colon
    have := Cursor.size_text_lt value
    omega

/-- Take the next text of a key that is written as a list, `index` texts being there before it. -/
def readListed (cursor : Cursor) (index : Nat) : Except Error (String × Cursor) := do
  let (more, behind) ← cursor.nextElement (index == 0)
  if more then behind.text
  else behind.failHere (.shortRecord index "struct SshKey with 2 elements")

/-- Take a key behind the bracket of a list. -/
def readList (cursor : Cursor) : Except Error (Key × Cursor) := do
  let (name, behind) ← readListed cursor 0
  let (text, behind) ← readListed behind 1
  return (⟨name, text⟩, ← behind.endOfList)

/-- Take a key and the space before it. -/
def readKey (cursor : Cursor) : Except Error (Key × Cursor) :=
  let cursor := cursor.skipSpace
  match cursor.peek? with
  | none => cursor.failNext (.endInside .value)
  | some '[' => readList cursor.advance
  | some '\x7b' => readFields cursor.advance true {}
  | some _ => cursor.wrongKind "struct SshKey"

theorem size_readFields_le {cursor behind : Cursor} {first : Bool} {fields : Fields} {key : Key}
    (taken : readFields cursor first fields = .ok (key, behind)) :
    behind.size ≤ cursor.size := by
  fun_induction readFields cursor first fields with
  | case1 => simp at taken
  | case2 _ _ _ _ next =>
    simp only [Except.ok.injEq, Prod.mk.injEq] at taken
    exact taken.2 ▸ Cursor.size_nextField_le next
  | case3 => simp at taken
  | case4 => simp at taken
  | case5 => simp at taken
  | case6 _ _ _ _ next _ _ string _ _ skipped hypothesis =>
    have := Cursor.size_nextField_le next
    have := Cursor.size_string_lt string
    obtain ⟨_, colon, value⟩ := bind_eq_ok_iff.1 skipped
    have := Cursor.size_colon_le colon
    have := Cursor.size_skipValue_lt value
    have := hypothesis taken
    omega
  | case7 => simp at taken
  | case8 => simp at taken
  | case9 _ _ _ _ next _ _ string _ _ _ _ _ read hypothesis =>
    have := Cursor.size_nextField_le next
    have := Cursor.size_string_lt string
    obtain ⟨_, colon, value⟩ := bind_eq_ok_iff.1 read
    have := Cursor.size_colon_le colon
    have := Cursor.size_text_lt value
    have := hypothesis taken
    omega

theorem size_readListed_lt {cursor behind : Cursor} {index : Nat} {content : String}
    (taken : readListed cursor index = .ok (content, behind)) : behind.size < cursor.size := by
  simp only [readListed, bind_eq_ok_iff] at taken
  obtain ⟨⟨more, first⟩, next, taken⟩ := taken
  have := Cursor.size_nextElement_le next
  split at taken
  · exact Nat.lt_of_lt_of_le (Cursor.size_text_lt taken) this
  · simp at taken

theorem size_readKey_lt {cursor behind : Cursor} {key : Key}
    (taken : readKey cursor = .ok (key, behind)) : behind.size < cursor.size := by
  have space := Cursor.size_skipSpace_le cursor
  unfold readKey at taken
  simp only at taken
  split at taken
  · simp at taken
  · rename_i next
    simp only [readList, bind_eq_ok_iff, pure, Except.pure, Except.ok.injEq, Prod.mk.injEq]
      at taken
    obtain ⟨⟨_, first⟩, name, ⟨_, second⟩, text, third, last, _, rfl⟩ := taken
    have : third.size ≤ second.size := Cursor.size_endOfList_le last
    have : second.size < first.size := size_readListed_lt text
    have := size_readListed_lt name
    have := Cursor.size_advance_lt next
    omega
  · rename_i next
    have := Cursor.size_advance_lt next
    have := size_readFields_le taken
    omega
  · exact absurd taken (Cursor.wrongKind_ne_ok _ _ _)

end AccountPanel.KeyFile
