import AccountPanel.Key
import AccountPanel.Urlencoded

/-!
# Records from fields

Decoded fields read as a record. A field that the record knows may occur once; fields with other
names are skipped. A record says of each field whether it may be missing.
-/

namespace AccountPanel.Http

/-- Why fields are not a record. -/
inductive RecordError where
  | missing (field : String)
  | duplicate (field : String)
  deriving Repr, DecidableEq

/-- The words for an error. -/
def RecordError.message : RecordError → String
  | .missing field => "missing field \x60" ++ field ++ "\x60"
  | .duplicate field => "duplicate field \x60" ++ field ++ "\x60"

namespace Record

/-- The first name in `names` that is known and was seen before it. -/
def firstRepeated? (known : List String) : (seen names : List String) → Option String
  | _, [] => none
  | seen, name :: names =>
    if !known.contains name then firstRepeated? known seen names
    else if seen.contains name then some name
    else firstRepeated? known (name :: seen) names

/-- Refuse fields among which a known name occurs twice. -/
def requireDistinct (known : List String) (fields : List Urlencoded.Field) :
    Except RecordError Unit :=
  match firstRepeated? known [] (fields.map (·.1)) with
  | some name => .error (.duplicate name)
  | none => .ok ()

/-- The value of the first field with this name. -/
def value? (fields : List Urlencoded.Field) (name : String) : Option String :=
  fields.lookup name

/-- The value of the first field with this name, which has to be there. -/
def value (fields : List Urlencoded.Field) (name : String) : Except RecordError String :=
  match value? fields name with
  | some text => .ok text
  | none => .error (.missing name)

end Record

/-- Read what somebody typed for a new key. A missing field is an empty text. -/
def readDraft (fields : List Urlencoded.Field) : Except RecordError Draft := do
  Record.requireDistinct ["name", "key"] fields
  return ⟨(Record.value? fields "name").getD "", (Record.value? fields "key").getD ""⟩

/-- Read a key. Both fields have to be there. -/
def readKey (fields : List Urlencoded.Field) : Except RecordError Key := do
  Record.requireDistinct ["name", "key"] fields
  return ⟨← Record.value fields "name", ← Record.value fields "key"⟩

/-- What the query of the account page may ask for. -/
structure PageQuery where
  tab : Option String := none
  modal : Option String := none
  notice : Option String := none
  deriving Repr, DecidableEq

/-- Read the query of the account page. Every field may be missing. -/
def readPageQuery (fields : List Urlencoded.Field) : Except RecordError PageQuery := do
  Record.requireDistinct ["tab", "modal", "notice"] fields
  return ⟨Record.value? fields "tab", Record.value? fields "modal",
    Record.value? fields "notice"⟩

end AccountPanel.Http
