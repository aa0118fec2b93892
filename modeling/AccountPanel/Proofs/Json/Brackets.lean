import AccountPanel.Proofs.Json.Strings

/-!
# Written forms of JSON lists and objects

Items stand between two brackets, with a comma between one and the next and any space around each
of them. The items of an object are fields: a label, a colon and a content. This module says what
the written forms are and how a reader goes from one item to the next.
-/

namespace AccountPanel.Json

/-! ## Written forms -/

/-- May these characters stand between the parts of a JSON text? -/
def AreSpaces (characters : List Char) : Prop :=
  ∀ character ∈ characters, character ∈ [' ', '\t', '\n', '\r']

instance (characters : List Char) : Decidable (AreSpaces characters) :=
  List.decidableBAll (· ∈ [' ', '\t', '\n', '\r']) characters

variable {α : Type}

/-- The written forms of what follows an item: further items, each behind a comma, and the bracket
that ends them. -/
inductive WrittenRest (item : α → List Char → Prop) (closing : Char) : List α → List Char → Prop
    where
  | closed {space : List Char} : AreSpaces space →
      WrittenRest item closing [] (space ++ [closing])
  | next {value : α} {values : List α} {before behind written rest : List Char} :
      AreSpaces before → AreSpaces behind → item value written →
      WrittenRest item closing values rest →
      WrittenRest item closing (value :: values) (before ++ ',' :: (behind ++ (written ++ rest)))

/-- The written forms of items, behind the bracket that starts them. -/
inductive WrittenItems (item : α → List Char → Prop) (closing : Char) : List α → List Char → Prop
    where
  | none {space : List Char} : AreSpaces space →
      WrittenItems item closing [] (space ++ [closing])
  | some {value : α} {values : List α} {space written rest : List Char} :
      AreSpaces space → item value written → WrittenRest item closing values rest →
      WrittenItems item closing (value :: values) (space ++ (written ++ rest))

/-- The written forms of a list. -/
def WrittenList (item : α → List Char → Prop) (values : List α) (written : List Char) : Prop :=
  ∃ items, WrittenItems item ']' values items ∧ written = '[' :: items

/-- The written forms of a field: its label and its content, with a colon between them. -/
inductive WrittenField (label content : String) : List Char → Prop where
  | mk {name before behind text : List Char} : WrittenString label name → AreSpaces before →
      AreSpaces behind → WrittenString content text →
      WrittenField label content (name ++ (before ++ ':' :: (behind ++ text)))

/-- A written field starts with the quotation mark of its label. -/
theorem WrittenField.exists_cons {label content : String} {written : List Char}
    (spelled : WrittenField label content written) : ∃ inside, written = '"' :: inside := by
  cases spelled with
  | mk name spaces moreSpaces text =>
      rcases name with ⟨inside, -, rfl⟩
      exact ⟨_, rfl⟩

/-- The written forms of an object with these fields in this order. -/
def WrittenObject (fields : List (String × String)) (written : List Char) : Prop :=
  ∃ items, WrittenItems (fun field => WrittenField field.1 field.2) '\x7d' fields items ∧
    written = '\x7b' :: items

namespace Cursor

variable {space before behind : List Char} {character : Char} (rest : List Char)
variable (position : Position)

/-! ## Space -/

theorem isSpace_iff : isSpace character = true ↔ character ∈ [' ', '\t', '\n', '\r'] := by
  simp only [isSpace, Bool.or_eq_true, beq_iff_eq, List.mem_cons, List.not_mem_nil, or_false]
  grind

theorem skipSpace_append (spaces : AreSpaces space)
    (visible : rest.head?.all (! isSpace ·) = true) :
    (Cursor.mk (space ++ rest) position).skipSpace = ⟨rest, position.passAll space⟩ := by
  have passes : ∀ character ∈ space, isSpace character = true := fun character member =>
    isSpace_iff.mpr (spaces character member)
  have stops : rest.takeWhile isSpace = [] ∧ rest.dropWhile isSpace = rest := by
    cases rest with
    | nil => exact ⟨rfl, rfl⟩
    | cons character rest =>
        have first : isSpace character = false := by simpa using visible
        simp [first]
  rw [skipSpace, span]
  simp only [List.takeWhile_append_of_pos passes, List.dropWhile_append_of_pos passes, stops,
    List.append_nil]
  rfl

theorem skipSpace_cons (visible : isSpace character = false) :
    (Cursor.mk (character :: rest) position).skipSpace = ⟨character :: rest, position⟩ := by
  have noSpace : AreSpaces [] := fun _ member => by cases member
  exact skipSpace_append (character :: rest) position noSpace (by simpa using visible)

/-! ## From item to item -/

theorem nextElement_closed (spaces : AreSpaces space) (first : Bool) :
    nextElement ⟨space ++ ']' :: rest, position⟩ first =
      .ok (false, ⟨rest, (position.passAll space).pass ']'⟩) := by
  rw [nextElement]
  simp only [skipSpace_append (']' :: rest) position spaces rfl, peek?_cons, if_true,
    advance_cons]

/-- The first element starts behind the space. -/
theorem nextElement_first (spaces : AreSpaces space) (visible : isSpace character = false)
    (opens : character ≠ ']') :
    nextElement ⟨space ++ character :: rest, position⟩ true =
      .ok (true, ⟨character :: rest, position.passAll space⟩) := by
  rw [nextElement]
  simp only [skipSpace_append (character :: rest) position spaces (by simpa using visible),
    peek?_cons, if_neg opens, if_true]

/-- Every other element starts behind a comma. -/
theorem nextElement_comma (spaces : AreSpaces before) (moreSpaces : AreSpaces behind)
    (visible : isSpace character = false) (opens : character ≠ ']') :
    nextElement ⟨before ++ ',' :: (behind ++ character :: rest), position⟩ false =
      .ok (true, ⟨character :: rest, ((position.passAll before).pass ',').passAll behind⟩) := by
  rw [nextElement]
  simp only [skipSpace_append (',' :: _) position spaces rfl, peek?_cons, advance_cons,
    skipSpace_append (character :: rest) _ moreSpaces (by simpa using visible)]
  rw [if_neg (by decide), if_neg (by decide), if_pos trivial]

theorem nextField_closed (spaces : AreSpaces space) (first : Bool) :
    nextField ⟨space ++ '\x7d' :: rest, position⟩ first =
      .ok (false, ⟨rest, (position.passAll space).pass '\x7d'⟩) := by
  rw [nextField]
  simp only [skipSpace_append ('\x7d' :: rest) position spaces rfl, peek?_cons, if_true,
    advance_cons]

/-- The label of the first field starts behind the space. -/
theorem nextField_first (spaces : AreSpaces space) :
    nextField ⟨space ++ '"' :: rest, position⟩ true =
      .ok (true, ⟨rest, (position.passAll space).pass '"'⟩) := by
  rw [nextField]
  simp only [skipSpace_append ('"' :: rest) position spaces rfl, peek?_cons, if_true]
  rw [if_neg (by decide)]
  rfl

/-- The label of every other field starts behind a comma. -/
theorem nextField_comma (spaces : AreSpaces before) (moreSpaces : AreSpaces behind) :
    nextField ⟨before ++ ',' :: (behind ++ '"' :: rest), position⟩ false =
      .ok (true, ⟨rest, (((position.passAll before).pass ',').passAll behind).pass '"'⟩) := by
  rw [nextField]
  simp only [skipSpace_append (',' :: _) position spaces rfl, peek?_cons, advance_cons,
    skipSpace_append ('"' :: rest) _ moreSpaces rfl]
  rw [if_neg (by decide), if_neg (by decide), if_pos trivial]
  rfl

/-! ## Labels and contents -/

theorem colon_append (spaces : AreSpaces space) :
    colon ⟨space ++ ':' :: rest, position⟩ =
      .ok ⟨rest, (position.passAll space).pass ':'⟩ := by
  rw [colon]
  simp only [skipSpace_append (':' :: rest) position spaces rfl, peek?_cons, advance_cons]

theorem text_append {content : String} {written : List Char} (spaces : AreSpaces space)
    (spelled : WrittenString content written) :
    text ⟨space ++ (written ++ rest), position⟩ =
      .ok (content, ⟨rest, position.passAll (space ++ written)⟩) := by
  rcases spelled.exists_string_eq with ⟨inside, rfl, read⟩
  rw [text, List.cons_append]
  simp only [skipSpace_append ('"' :: _) position spaces rfl, peek?_cons, advance_cons, read]
  simp

/-- The content of a field is read behind its label, together with the colon. -/
theorem colon_text_append {content : String} {written : List Char} (spaces : AreSpaces before)
    (moreSpaces : AreSpaces behind) (spelled : WrittenString content written) :
    (colon ⟨before ++ ':' :: (behind ++ (written ++ rest)), position⟩ >>= text) =
      .ok (content, ⟨rest, position.passAll (before ++ ':' :: (behind ++ written))⟩) := by
  rw [colon_append _ _ spaces]
  simpa [bind, Except.bind] using text_append rest _ moreSpaces spelled

end Cursor

end AccountPanel.Json
