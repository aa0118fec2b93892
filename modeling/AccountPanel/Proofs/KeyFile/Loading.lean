import AccountPanel.Proofs.Json.Brackets
import AccountPanel.Proofs.KeyFile
import AccountPanel.Proofs.Text.Utf8
import Mathlib.Data.List.Forall2

/-!
# Loading a written list of keys

A list of keys may be written in many ways: with any space, with the two fields of a key in either
order, and with any escapes. Loading any of them gives the same keys, each on single lines. Keys
that were loaded once are loaded again as they are.
-/

namespace AccountPanel.KeyFile

open Json

/-! ## Written forms -/

/-- The written forms of a key: an object with a name and a text, in either order. -/
def WrittenKey (key : Key) (written : List Char) : Prop :=
  WrittenObject [("name", key.name), ("key", key.text)] written ∨
    WrittenObject [("key", key.text), ("name", key.name)] written

/-- The written forms of a key file: a list of keys with any space around it. -/
def WrittenFile (keys : List Key) (written : List Char) : Prop :=
  ∃ before list behind, AreSpaces before ∧ AreSpaces behind ∧ WrittenList WrittenKey keys list ∧
    written = before ++ (list ++ behind)

/-- Is `line` what is left of a text without the blanks at its ends and then without the line breaks
inside? -/
def IsLineOf (text line : String) : Prop :=
  ∃ front middle behind, text.toList = front ++ middle ++ behind ∧
    (∀ character ∈ front ++ behind, Text.isBlank character = true) ∧
    Text.isBareAround Text.isBlank middle = true ∧
    line.toList = middle.filter fun character => character ≠ '\r' ∧ character ≠ '\n'

/-! ## Keys -/

section Fields

variable {cursor : Cursor} {first : Bool} {fields : Fields} {key : Key}
variable {field : Field} {content : String} {written : List Char}

/-- A field that has not been read is read and kept. -/
theorem readFields_of_fresh {rest : List Char} {position : Position}
    (spelled : WrittenField field.label content ('"' :: written))
    (next : cursor.nextField first = .ok (true, ⟨written ++ rest, position⟩))
    (fresh : fields.get? field = none) :
    readFields cursor first fields =
      readFields ⟨rest, position.passAll written⟩ false (fields.set field content) := by
  have known : Field.ofLabel? field.label = some field := by cases field <;> decide
  generalize start : '"' :: written = whole at spelled
  cases spelled with
  | mk named spaces moreSpaces text =>
      rcases named.exists_string_eq with ⟨label, rfl, read⟩
      rw [List.cons_append] at start
      rcases List.cons.inj start with ⟨-, rfl⟩
      simp only [List.append_assoc, List.cons_append] at next
      rw [readFields]
      split
      next failed => cases next.symm.trans failed
      next found => cases next.symm.trans found
      next found =>
        cases next.symm.trans found
        split
        next failed => cases (read _ _).symm.trans failed
        next found =>
          cases (read _ _).symm.trans found
          have content := Cursor.colon_text_append rest (position.passAll label) spaces moreSpaces
            text
          simp only [known, fresh, Option.isSome_none, Bool.false_eq_true, if_false]
          split
          next failed => cases content.symm.trans failed
          next found =>
            cases content.symm.trans found
            rw [← Position.passAll_append]

variable {space before after : List Char} (rest : List Char) (position : Position)

theorem readFields_closed (spaces : AreSpaces space) (whole : fields.toKey = .ok key) :
    readFields ⟨space ++ '\x7d' :: rest, position⟩ first fields =
      .ok (key, ⟨rest, position.passAll (space ++ ['\x7d'])⟩) := by
  have closed := Cursor.nextField_closed rest position spaces first
  rw [readFields]
  split
  next failed => cases closed.symm.trans failed
  next found =>
    cases closed.symm.trans found
    split
    next taken =>
      rw [Except.ok.inj (whole.symm.trans taken)]
      simp
    next failed => cases whole.symm.trans failed
  next found => cases closed.symm.trans found

theorem readFields_first (spaces : AreSpaces space)
    (spelled : WrittenField field.label content written) (fresh : fields.get? field = none) :
    readFields ⟨space ++ (written ++ rest), position⟩ true fields =
      readFields ⟨rest, position.passAll (space ++ written)⟩ false (fields.set field content) := by
  rcases spelled.exists_cons with ⟨inside, rfl⟩
  rw [List.cons_append,
    readFields_of_fresh spelled (Cursor.nextField_first _ position spaces) fresh]
  simp

theorem readFields_comma (spaces : AreSpaces before) (moreSpaces : AreSpaces after)
    (spelled : WrittenField field.label content written) (fresh : fields.get? field = none) :
    readFields ⟨before ++ ',' :: (after ++ (written ++ rest)), position⟩ false fields =
      readFields ⟨rest, position.passAll (before ++ ',' :: (after ++ written))⟩ false
        (fields.set field content) := by
  rcases spelled.exists_cons with ⟨inside, rfl⟩
  rw [List.cons_append,
    readFields_of_fresh spelled (Cursor.nextField_comma _ position spaces moreSpaces) fresh]
  simp

/-- An object of two different fields is read, whichever of them comes first. -/
theorem readFields_object (first second : Field) {firstContent secondContent : String}
    (different : first ≠ second)
    (spelled : WrittenItems (fun field => WrittenField field.1 field.2) '\x7d'
      [(first.label, firstContent), (second.label, secondContent)] written)
    (whole : ((({} : Fields).set first firstContent).set second secondContent).toKey = .ok key) :
    readFields ⟨written ++ rest, position⟩ true {} =
      .ok (key, ⟨rest, position.passAll written⟩) := by
  have fresh : (({} : Fields).set first firstContent).get? second = none := by
    cases first <;> cases second <;> first | rfl | exact absurd rfl different
  cases spelled with
  | some spaces one others =>
      cases others with
      | next spacesBefore spacesAfter other closing =>
          cases closing with
          | closed lastSpaces =>
              simp only [List.append_assoc, List.cons_append]
              rw [readFields_first _ _ spaces one (by cases first <;> rfl),
                readFields_comma _ _ spacesBefore spacesAfter other fresh,
                readFields_closed _ _ lastSpaces whole]
              simp

end Fields

theorem readKey_append {key : Key} {written : List Char} (spelled : WrittenKey key written)
    (rest : List Char) (position : Position) :
    readKey ⟨written ++ rest, position⟩ = .ok (key, ⟨rest, position.passAll written⟩) := by
  have visible : Cursor.isSpace '\x7b' = false := by decide
  have opened : ∀ fields, (readFields ⟨fields ++ rest, position.pass '\x7b'⟩ true {} =
      .ok (key, ⟨rest, (position.pass '\x7b').passAll fields⟩)) →
        readKey ⟨'\x7b' :: fields ++ rest, position⟩ =
          .ok (key, ⟨rest, position.passAll ('\x7b' :: fields)⟩) := by
    intro fields read
    rw [readKey]
    simp only [List.cons_append, Cursor.skipSpace_cons _ _ visible, Cursor.peek?_cons,
      Cursor.advance_cons, read, Position.passAll_cons]
  rcases spelled with ⟨fields, items, rfl⟩ | ⟨fields, items, rfl⟩
  · exact opened fields (readFields_object rest _ .name .text (by decide) items rfl)
  · exact opened fields (readFields_object rest _ .text .name (by decide) items rfl)

/-! ## Lists of keys -/

section Keys

variable {cursor element behind : Cursor} {first : Bool} {done : List Key} {key : Key}

theorem readKeys_of_closed (closed : cursor.nextElement first = .ok (false, behind)) :
    readKeys cursor first done = .ok (done.reverse, behind) := by
  rw [readKeys]
  split
  next failed => cases closed.symm.trans failed
  next found =>
    cases closed.symm.trans found
    rfl
  next found => cases closed.symm.trans found

theorem readKeys_of_key (next : cursor.nextElement first = .ok (true, element))
    (taken : readKey element = .ok (key, behind)) :
    readKeys cursor first done = readKeys behind false (key :: done) := by
  rw [readKeys]
  split
  next failed => cases next.symm.trans failed
  next found => cases next.symm.trans found
  next found =>
    cases next.symm.trans found
    split
    next failed => cases taken.symm.trans failed
    next found =>
      cases taken.symm.trans found
      rfl

variable {keys : List Key} {written : List Char} (rest : List Char)

/-- A written key starts with a brace. -/
theorem WrittenKey.exists_cons (spelled : WrittenKey key written) :
    ∃ inside, written = '\x7b' :: inside := by
  rcases spelled with ⟨inside, -, rfl⟩ | ⟨inside, -, rfl⟩
  · exact ⟨inside, rfl⟩
  · exact ⟨inside, rfl⟩

/-- Behind a key the others are read up to the end of the list. -/
theorem readKeys_rest (spelled : WrittenRest WrittenKey ']' keys written) (position : Position)
    (done : List Key) :
    readKeys ⟨written ++ rest, position⟩ false done =
      .ok (done.reverse ++ keys, ⟨rest, position.passAll written⟩) := by
  have visible : Cursor.isSpace '\x7b' = false := by decide
  induction spelled generalizing position done with
  | closed spaces =>
      rw [List.append_assoc, List.singleton_append,
        readKeys_of_closed (Cursor.nextElement_closed rest position spaces false)]
      simp
  | @next _ _ _ _ _ others spaces moreSpaces one _ ih =>
      rcases one.exists_cons with ⟨inside, rfl⟩
      have next := Cursor.nextElement_comma (inside ++ (others ++ rest)) position spaces moreSpaces
        visible (by decide)
      have taken := readKey_append one (others ++ rest)
      simp only [List.append_assoc, List.cons_append] at taken ⊢
      rw [readKeys_of_key next (taken _), ih]
      simp

theorem readKeys_items (spelled : WrittenItems WrittenKey ']' keys written)
    (position : Position) :
    readKeys ⟨written ++ rest, position⟩ true [] =
      .ok (keys, ⟨rest, position.passAll written⟩) := by
  have visible : Cursor.isSpace '\x7b' = false := by decide
  cases spelled with
  | none spaces =>
      rw [List.append_assoc, List.singleton_append,
        readKeys_of_closed (Cursor.nextElement_closed rest position spaces true)]
      simp
  | @some _ _ _ _ others spaces one closing =>
      rcases one.exists_cons with ⟨inside, rfl⟩
      have first := Cursor.nextElement_first (inside ++ (others ++ rest)) position spaces visible
        (by decide)
      have taken := readKey_append one (others ++ rest)
      simp only [List.append_assoc, List.cons_append] at taken ⊢
      rw [readKeys_of_key first (taken _), readKeys_rest rest closing]
      simp

end Keys

theorem parse_of_writtenFile {keys : List Key} {written : List Char}
    (spelled : WrittenFile keys written) : parse written = .ok keys := by
  rcases spelled with ⟨before, list, behind, spaces, moreSpaces, ⟨items, listed, rfl⟩, rfl⟩
  have visible : Cursor.isSpace '[' = false := by decide
  have atEnd : ∀ position, Cursor.endOfText ⟨behind, position⟩ = .ok () := by
    intro position
    have skipped := Cursor.skipSpace_append [] position moreSpaces rfl
    rw [List.append_nil] at skipped
    rw [Cursor.endOfText, skipped]
    rfl
  rw [parse]
  simp only [List.cons_append,
    Cursor.skipSpace_append ('[' :: (items ++ behind)) {} spaces rfl, Cursor.peek?_cons,
    Cursor.advance_cons, readKeys_items behind listed, bind, Except.bind, atEnd]
  rfl

/-! ## Files -/

theorem loadFile_of_writtenFile {read : Files.Reader} {path : String} {keys : List Key}
    {written : List Char} (spelled : WrittenFile keys written)
    (stored : read path = .ok (Text.Utf8.encode written)) :
    loadFile read path = .ok (keys.map singleLineKey) := by
  have text : read.text path = .ok written := by
    simp only [Files.Reader.text, stored, Text.Utf8.decode?_encode]
  rw [loadFile, text]
  simp only [Except.mapError, bind, Except.bind, load, parse_of_writtenFile spelled]
  rfl

theorem isLineOf_singleLine (text : String) : IsLineOf text (singleLine text) := by
  rcases Text.exists_dropAround_split Text.isBlank text.toList with ⟨front, behind, split, blank⟩
  refine ⟨front, _, behind, split, blank, Text.isBareAround_dropAround Text.isBlank _, ?_⟩
  rw [singleLine, String.toList_ofList, Text.toList_trim]
  apply List.filter_congr
  intro character _
  rw [Bool.eq_iff_iff, Bool.not_eq_true', isLineBreak_eq_false_iff, decide_eq_true_iff]

/-- A text that is on a single line stays as it is. -/
theorem singleLine_singleLine (text : String) : singleLine (singleLine text) = singleLine text := by
  have kept : (singleLine text).toList.filter (! isLineBreak ·) = (singleLine text).toList := by
    rw [List.filter_eq_self]
    intro character member
    rw [isLineBreak_of_mem_singleLine member]
    rfl
  rw [singleLine, Text.trim_of_isTidy (isTidy_singleLine text), kept, String.ofList_toList]

theorem singleLineKey_singleLineKey (key : Key) :
    singleLineKey (singleLineKey key) = singleLineKey key := by
  simp only [singleLineKey, singleLine_singleLine]

/-- A file with any written form of a list of keys is loaded as these keys in their order, each
trimmed and then without line breaks. The texts that are loaded are tidy and hold no line breaks,
and a file with any written form of the loaded keys is loaded as these very keys. -/
theorem loads_written_file {read : Files.Reader} {path : String} {keys : List Key}
    {written : List Char} (spelled : WrittenFile keys written)
    (stored : read path = .ok (Text.Utf8.encode written)) :
    ∃ loaded, loadFile read path = .ok loaded ∧
      List.Forall₂
        (fun key line => IsLineOf key.name line.name ∧ IsLineOf key.text line.text) keys loaded ∧
      (∀ key ∈ loaded, ∀ text ∈ [key.name, key.text],
        Text.isTidy text = true ∧ '\r' ∉ text.toList ∧ '\n' ∉ text.toList) ∧
      ∀ (again : Files.Reader) (place : String) (rewritten : List Char),
        WrittenFile loaded rewritten → again place = .ok (Text.Utf8.encode rewritten) →
          loadFile again place = .ok loaded := by
  refine ⟨keys.map singleLineKey, loadFile_of_writtenFile spelled stored, ?_, ?_, ?_⟩
  · rw [List.forall₂_map_right_iff, List.forall₂_same]
    exact fun key _ => ⟨isLineOf_singleLine key.name, isLineOf_singleLine key.text⟩
  · intro loaded member text field
    rcases List.mem_map.mp member with ⟨key, -, rfl⟩
    have line : ∃ whole, text = singleLine whole := by
      rcases List.mem_pair.mp field with rfl | rfl
      · exact ⟨key.name, rfl⟩
      · exact ⟨key.text, rfl⟩
    rcases line with ⟨whole, rfl⟩
    refine ⟨isTidy_singleLine whole, ?_, ?_⟩
    · intro present
      exact absurd (isLineBreak_of_mem_singleLine present) (by decide)
    · intro present
      exact absurd (isLineBreak_of_mem_singleLine present) (by decide)
  · intro again place rewritten respelled restored
    rw [loadFile_of_writtenFile respelled restored, List.map_map]
    simp only [Function.comp_def, singleLineKey_singleLineKey]

/-- Two keys with their fields in different orders, and with escapes in a label and in the texts,
among them a surrogate pair in digits of both cases. -/
theorem loads_written_file_of_escapes :
    let written :=
      ("\n[ \x7b\"\\u006Bey\" :\t\"k\\r\\nx\"," ++
        "\"name\":\" \\/\\uD83d\\uDE00\\n\"\x7d ,\x7b\"name\":\"\",\"key\":\" \"\x7d]").toList
    let keys : List Key := [⟨" /😀\n", "k\r\nx"⟩, ⟨"", " "⟩]
    let read : Files.Reader := fun _ => .ok (Text.Utf8.encode written)
    WrittenFile keys written ∧ loadFile read "keys.json" = .ok [⟨"/😀", "kx"⟩, ⟨"", ""⟩] := by
  intro written keys read
  have nothing : AreSpaces [] := by decide
  have space : AreSpaces [' '] := by decide
  have tab : AreSpaces ['\t'] := by decide
  have feed : AreSpaces ['\n'] := by decide
  have plain : ∀ content : String,
      isPlain content.toList = true →
        WrittenString content ('"' :: content.toList ++ ['"']) := fun content plain =>
    ⟨_, writtenChars_self plain, rfl⟩
  have label : WrittenString "key" "\"\\u006Bey\"".toList :=
    ⟨_, .cons (.unit (.digits (by decide) (by decide) (by decide) (by decide)))
      (writtenChars_self (by decide)), rfl⟩
  have text : WrittenString "k\r\nx" "\"k\\r\\nx\"".toList :=
    ⟨_, .cons (.plain (by decide) (by decide) (by decide)) (.cons (.letter (by decide))
      (.cons (.letter (by decide)) (writtenChars_self (by decide)))), rfl⟩
  have name : WrittenString " /😀\n" "\" \\/\\uD83d\\uDE00\\n\"".toList :=
    ⟨_, .cons (.plain (by decide) (by decide) (by decide)) (.cons (.letter (by decide))
      (.cons (.pair (by decide) (.digits (by decide) (by decide) (by decide) (by decide))
          (.digits (by decide) (by decide) (by decide) (by decide)))
        (.cons (.letter (by decide)) .nil))), rfl⟩
  have first : WrittenKey ⟨" /😀\n", "k\r\nx"⟩
      ("\x7b\"\\u006Bey\" :\t\"k\\r\\nx\"," ++
        "\"name\":\" \\/\\uD83d\\uDE00\\n\"\x7d").toList :=
    .inr ⟨_, .some nothing (.mk label space tab text)
      (.next nothing nothing (.mk (plain "name" (by decide)) nothing nothing name)
        (.closed nothing)), rfl⟩
  have second : WrittenKey ⟨"", " "⟩ "\x7b\"name\":\"\",\"key\":\" \"\x7d".toList :=
    .inl ⟨_, .some nothing
      (.mk (plain "name" (by decide)) nothing nothing (plain "" (by decide)))
      (.next nothing nothing
        (.mk (plain "key" (by decide)) nothing nothing (plain " " (by decide)))
        (.closed nothing)), rfl⟩
  have spelled : WrittenFile keys written :=
    ⟨_, _, [], feed, nothing,
      ⟨_, .some space first (.next space nothing second (.closed nothing)), rfl⟩, rfl⟩
  have stored : read "keys.json" = .ok (Text.Utf8.encode written) := rfl
  rcases loads_written_file spelled stored with ⟨loaded, found, -⟩
  have same : loaded = [⟨"/😀", "kx"⟩, ⟨"", ""⟩] :=
    (Except.ok.inj (found.symm.trans (loadFile_of_writtenFile spelled stored))).trans (by decide)
  exact ⟨spelled, same ▸ found⟩

end AccountPanel.KeyFile
