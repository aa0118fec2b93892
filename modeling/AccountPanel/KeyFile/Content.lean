import AccountPanel.KeyFile.Record
import AccountPanel.Text.Blank

/-!
# The content of a key file

A key file holds one JSON list of keys. The keys that are loaded from it have no blanks at the ends
of their texts and no line breaks inside: a browser would not send a line break back as it was.
-/

namespace AccountPanel.KeyFile

open Json

/-- Take the keys that are left in a list, behind those that are done, the last one first. -/
def readKeys (cursor : Cursor) (first : Bool) (done : List Key) :
    Except Error (List Key × Cursor) :=
  match _next : cursor.nextElement first with
  | .error error => .error error
  | .ok (false, behind) => .ok (done.reverse, behind)
  | .ok (true, element) =>
    match _key : readKey element with
    | .error error => .error error
    | .ok (key, behind) => readKeys behind false (key :: done)
termination_by cursor.size
decreasing_by
  have := Cursor.size_nextElement_le _next
  have := size_readKey_lt _key
  omega

/-- The keys that a text denotes. -/
def parse (text : List Char) : Except Error (List Key) :=
  let cursor := (Cursor.mk text {}).skipSpace
  match cursor.peek? with
  | none => cursor.failNext (.endInside .value)
  | some '[' => do
    let (keys, behind) ← readKeys cursor.advance true []
    behind.endOfText
    return keys
  | some _ => cursor.wrongKind "a sequence"

/-- Is the character part of a line break? -/
def isLineBreak (character : Char) : Bool := character == '\r' || character == '\n'

/-- A text without blanks at its ends and without line breaks. -/
def singleLine (text : String) : String :=
  String.ofList ((Text.trim text).toList.filter (! isLineBreak ·))

/-- A key on single lines. -/
def singleLineKey (key : Key) : Key := ⟨singleLine key.name, singleLine key.text⟩

/-- The keys that are loaded from a text. -/
def load (text : List Char) : Except Error (List Key) := do
  return (← parse text).map singleLineKey

end AccountPanel.KeyFile
