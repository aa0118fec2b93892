import AccountPanel.Text.Blank

/-!
# Keys and drafts

A key is a named public key; nothing here looks inside the key text. A draft is what somebody
typed for a new key. A draft whose two texts are both more than blanks becomes a key, with the
blanks at the ends removed; any other draft is refused with an error for each blank text.
-/

namespace AccountPanel

/-- A named public key. -/
structure Key where
  name : String
  text : String
  deriving Repr, DecidableEq

/-- What somebody typed for a new key. -/
structure Draft where
  name : String := ""
  text : String := ""
  deriving Repr, DecidableEq

/-- The messages shown beside the two fields of a draft. -/
structure FieldErrors where
  name : Option String := none
  text : Option String := none
  deriving Repr, DecidableEq

/-- Is there no message at all? -/
def FieldErrors.isEmpty (errors : FieldErrors) : Bool :=
  errors.name.isNone && errors.text.isNone

namespace Draft

/-- The draft that shows a key again. -/
def ofKey (key : Key) : Draft := ⟨key.name, key.text⟩

/-- The draft without the blanks at the ends of its texts. -/
def trimmed (draft : Draft) : Key := ⟨Text.trim draft.name, Text.trim draft.text⟩

/-- A message for each text that holds blanks alone. -/
def errors (draft : Draft) : FieldErrors where
  name := if draft.trimmed.name.isEmpty then some "Please insert a name for the key" else none
  text := if draft.trimmed.text.isEmpty then some "Please insert the public key" else none

/-- The key that a draft stands for, or the messages that refuse it. -/
def toKey (draft : Draft) : Except FieldErrors Key :=
  if draft.errors.isEmpty then .ok draft.trimmed else .error draft.errors

end Draft

end AccountPanel
