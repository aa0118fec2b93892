import AccountPanel.Markup.Piece
import AccountPanel.Proofs.Text.Parts

/-!
# Reading written markup

Reading a written page gives the pieces of its tokens, whatever its texts and attribute values are.
The names of tags and attributes have to be plain, which is a matter of the layout alone. All
escaping of user text is used up here: what is shown about pages afterwards speaks of pieces.
-/

namespace AccountPanel.Markup

/-! ## Names -/

/-- May a name hold this character? -/
def isNameCharacter (character : Char) : Bool := character.isAlphanum || character == '-'

/-- Is this the name of a tag or an attribute? -/
def isName (name : String) : Bool := name.toList.all isNameCharacter

/-- Are the names of a token plain, and its reference known? -/
def Token.isReadable : Token → Bool
  | .doctype | .text _ => true
  | .opening tag attributes => isName tag && attributes.all (isName ·.1)
  | .closing tag => isName tag
  | .reference name => (references.lookup name).isSome

theorem notMem_of_isName {name : String} {character : Char} (plain : isName name = true)
    (mark : isNameCharacter character = false) : character ∉ name.toList := by
  intro member
  have inside := List.all_eq_true.mp plain character member
  rw [mark] at inside
  cases inside

/-! ## Escaped text -/

/-- An escaped text holds none of the characters that end a place in a page. -/
theorem notMem_escape {mark : Char} (isMark : mark = '<' ∨ mark = '>' ∨ mark = '"')
    (text : String) : mark ∉ escape text := by
  intro member
  rcases List.mem_flatMap.mp member with ⟨character, -, written⟩
  rcases isMark with rfl | rfl | rfl
  all_goals
    unfold escapeChar at written
    split at written
  all_goals simp_all [eq_comm]

theorem unescape_eq {written head : List Char} {tail : List (List Char)}
    (parts : Text.partsBetween '&' written = head :: tail) :
    unescape written = head ++ tail.flatMap resolve := by
  simp only [unescape, parts]

@[simp] theorem unescape_nil : unescape [] = [] := rfl

theorem unescape_cons_of_ne {character : Char} (ordinary : character ≠ '&')
    (rest : List Char) : unescape (character :: rest) = character :: unescape rest := by
  rcases Text.exists_partsBetween_eq_cons '&' rest with ⟨head, tail, parts⟩
  have absent : '&' ∉ [character] := by
    simpa using ordinary.symm
  have whole := Text.partsBetween_append_of_notMem absent parts
  rw [List.singleton_append] at whole
  rw [unescape_eq parts, unescape_eq whole]
  rfl

/-- The names of the known references hold nothing that ends a reference or a text. -/
theorem notMem_of_lookup_references {name : String} {value : Char}
    (known : references.lookup name = some value) (mark : Char)
    (isMark : mark = '&' ∨ mark = ';' ∨ mark = '<') : mark ∉ name.toList := by
  rcases List.lookup_eq_some_iff.mp known with ⟨before, behind, table, -⟩
  have member : (name, value) ∈ references := by
    rw [table]
    simp
  simp only [references, List.mem_cons, Prod.mk.injEq, List.not_mem_nil, or_false] at member
  rcases isMark with rfl | rfl | rfl
  all_goals
    rcases member with ⟨rfl, -⟩ | ⟨rfl, -⟩ | ⟨rfl, -⟩ | ⟨rfl, -⟩ | ⟨rfl, -⟩ | ⟨rfl, -⟩ <;> decide

/-- A known reference stands for its character, whatever follows it. -/
theorem unescape_reference_append {name : String} {value : Char}
    (known : references.lookup name = some value) (rest : List Char) :
    unescape ('&' :: name.toList ++ ';' :: rest) = value :: unescape rest := by
  have noAmpersand := notMem_of_lookup_references known '&' (by simp)
  have noSemicolon := notMem_of_lookup_references known ';' (by simp)
  rcases Text.exists_partsBetween_eq_cons '&' rest with ⟨head, tail, parts⟩
  have absent : '&' ∉ name.toList ++ [';'] := by
    simp [noAmpersand]
  have ends : ∀ character ∈ name.toList, (character != ';') = true := by
    intro character member
    rw [bne_iff_ne]
    intro same
    subst same
    exact noSemicolon member
  have resolved : resolve (name.toList ++ ';' :: head) = value :: head := by
    simp [resolve, List.takeWhile_append_of_pos ends, List.dropWhile_append_of_pos ends, known]
  have cut : Text.partsBetween '&' ('&' :: name.toList ++ ';' :: rest) =
      [] :: (name.toList ++ ';' :: head) :: tail := by
    have behind := Text.partsBetween_append_of_notMem absent parts
    simp only [List.append_assoc, List.singleton_append] at behind
    rw [List.cons_append, Text.partsBetween_cons_self, behind]
  rw [unescape_eq cut, unescape_eq parts]
  simp [resolved]

theorem unescape_escapeChar_append (character : Char) (rest : List Char) :
    unescape (escapeChar character ++ rest) = character :: unescape rest := by
  unfold escapeChar
  split
  · exact unescape_reference_append (show references.lookup "amp" = some '&' from rfl) rest
  · exact unescape_reference_append (show references.lookup "lt" = some '<' from rfl) rest
  · exact unescape_reference_append (show references.lookup "gt" = some '>' from rfl) rest
  · exact unescape_reference_append (show references.lookup "quot" = some '"' from rfl) rest
  · exact unescape_reference_append (show references.lookup "#x27" = some '\'' from rfl) rest
  next ordinary _ _ _ _ => exact unescape_cons_of_ne ordinary rest

/-- An escaped text reads as itself, whatever follows it. -/
theorem unescape_escape_append (text : String) (rest : List Char) :
    unescape (escape text ++ rest) = text.toList ++ unescape rest := by
  rw [escape]
  induction text.toList with
  | nil => rfl
  | cons character characters ih =>
      rw [List.flatMap_cons, List.append_assoc, unescape_escapeChar_append, ih, List.cons_append]

theorem unescape_escape (text : String) : unescape (escape text) = text.toList := by
  simpa using unescape_escape_append text []

/-! ## Tags -/

theorem readAttributes_written (attributes : List (String × String))
    (plain : attributes.all (isName ·.1) = true) :
    readAttributes (Text.partsBetween '"' (attributes.flatMap writeAttribute)) = attributes := by
  induction attributes with
  | nil => rfl
  | cons named attributes ih =>
      rcases named with ⟨name, value⟩
      simp only [List.all_cons, Bool.and_eq_true] at plain
      have namePart : '"' ∉ ' ' :: name.toList ++ ['='] := by
        simp [notMem_of_isName plain.1 (show isNameCharacter '"' = false by decide)]
      have valuePart : '"' ∉ escape value := notMem_escape (by simp) value
      have kept : (' ' :: name.toList ++ ['=']).filter
          (fun character => character != ' ' && character != '=') = name.toList := by
        have each : ∀ character ∈ name.toList, (character != ' ' && character != '=') = true := by
          intro character member
          have noSpace : character ≠ ' ' := by
            intro same
            subst same
            exact notMem_of_isName plain.1 (by decide) member
          have noEquals : character ≠ '=' := by
            intro same
            subst same
            exact notMem_of_isName plain.1 (by decide) member
          simp [noSpace, noEquals]
        simp [List.filter_append, List.filter_eq_self.mpr each]
      have cut : Text.partsBetween '"' (((name, value) :: attributes).flatMap writeAttribute) =
          (' ' :: name.toList ++ ['=']) :: escape value ::
            Text.partsBetween '"' (attributes.flatMap writeAttribute) := by
        have shape : ((name, value) :: attributes).flatMap writeAttribute =
            (' ' :: name.toList ++ ['=']) ++
              '"' :: (escape value ++ '"' :: attributes.flatMap writeAttribute) := by
          simp [writeAttribute]
        rw [shape, Text.partsBetween_append_cons_of_notMem namePart,
          Text.partsBetween_append_cons_of_notMem valuePart]
      rw [cut, readAttributes, kept, unescape_escape, ih plain.2, String.ofList_toList,
        String.ofList_toList]

theorem notMem_flatMap_writeAttribute {mark : Char} (isMark : mark = '<' ∨ mark = '>')
    {attributes : List (String × String)} (plain : attributes.all (isName ·.1) = true) :
    mark ∉ attributes.flatMap writeAttribute := by
  intro member
  rcases List.mem_flatMap.mp member with ⟨⟨name, value⟩, inside, written⟩
  have plainName := List.all_eq_true.mp plain (name, value) inside
  have noName : mark ∉ name.toList := by
    rcases isMark with rfl | rfl <;> exact notMem_of_isName plainName (by decide)
  have noValue : mark ∉ escape value := by
    rcases isMark with rfl | rfl <;> exact notMem_escape (by simp) value
  rcases isMark with rfl | rfl <;> simp_all [writeAttribute]

/-- What stands between the angle brackets of an opening tag reads as this tag. -/
theorem readTag_opening {tag : String} {attributes : List (String × String)}
    (plainTag : isName tag = true) (plain : attributes.all (isName ·.1) = true) :
    readTag (tag.toList ++ attributes.flatMap writeAttribute) = .opening tag attributes := by
  have ends : ∀ character ∈ tag.toList, (character != ' ') = true := by
    intro character member
    rw [bne_iff_ne]
    intro same
    subst same
    exact notMem_of_isName plainTag (by decide) member
  have taken : (attributes.flatMap writeAttribute).takeWhile (· != ' ') = [] := by
    cases attributes with
    | nil => rfl
    | cons named attributes => simp [writeAttribute]
  have left : (attributes.flatMap writeAttribute).dropWhile (· != ' ') =
      attributes.flatMap writeAttribute := by
    cases attributes with
    | nil => rfl
    | cons named attributes => simp [writeAttribute]
  have starts : ∀ mark rest, isNameCharacter mark = false → mark ≠ ' ' →
      tag.toList ++ attributes.flatMap writeAttribute ≠ mark :: rest := by
    intro mark rest noName noSpace equal
    cases characters : tag.toList with
    | nil =>
        cases attributes with
        | nil => simp [characters] at equal
        | cons named attributes =>
            simp only [characters, List.nil_append, List.flatMap_cons, writeAttribute,
              List.cons_append] at equal
            exact noSpace (List.cons.inj equal).1.symm
    | cons first others =>
        have same : first = mark := by simp_all
        exact notMem_of_isName plainTag noName (by simp [characters, same])
  unfold readTag
  split
  next rest equal => exact absurd equal (starts '!' rest (by decide) (by decide))
  next rest equal => exact absurd equal (starts '/' rest (by decide) (by decide))
  next =>
    rw [List.takeWhile_append_of_pos ends, List.dropWhile_append_of_pos ends, taken, left,
      readAttributes_written attributes plain, List.append_nil, String.ofList_toList]

/-! ## Pages -/

theorem read_eq {page : String} {head : List Char} {tail : List (List Char)}
    (parts : Text.partsBetween '<' page.toList = head :: tail) :
    read page = readText head ++ tail.flatMap readSegment := by
  simp only [read, parts]

theorem read_text_append (text : String) (rest : List Char) :
    read (String.ofList (escape text ++ rest)) =
      text.toList.map .character ++ read (String.ofList rest) := by
  rcases Text.exists_partsBetween_eq_cons '<' rest with ⟨head, tail, parts⟩
  have absent : '<' ∉ escape text := notMem_escape (by simp) text
  have whole := Text.partsBetween_append_of_notMem absent parts
  rw [read_eq (by rwa [String.toList_ofList]), read_eq (by rwa [String.toList_ofList]), readText,
    readText, unescape_escape_append, List.map_append, List.append_assoc]

theorem read_reference_append {name : String} {value : Char}
    (known : references.lookup name = some value) (rest : List Char) :
    read (String.ofList ('&' :: name.toList ++ ';' :: rest)) =
      .character value :: read (String.ofList rest) := by
  rcases Text.exists_partsBetween_eq_cons '<' rest with ⟨head, tail, parts⟩
  have absent : '<' ∉ '&' :: name.toList ++ [';'] := by
    simp [notMem_of_lookup_references known '<' (by simp)]
  have whole := Text.partsBetween_append_of_notMem absent parts
  simp only [List.append_assoc, List.singleton_append] at whole
  rw [read_eq (by rwa [String.toList_ofList]), read_eq (by rwa [String.toList_ofList]), readText,
    readText, unescape_reference_append known]
  rfl

/-- A tag ends at its closing bracket, whatever follows it. -/
theorem read_tag_append {inner : List Char} (noOpening : '<' ∉ inner) (noClosing : '>' ∉ inner)
    (rest : List Char) :
    read (String.ofList ('<' :: inner ++ '>' :: rest)) =
      readTag inner :: read (String.ofList rest) := by
  rcases Text.exists_partsBetween_eq_cons '<' rest with ⟨head, tail, parts⟩
  have absent : '<' ∉ inner ++ ['>'] := by
    simp [noOpening]
  have ends : ∀ character ∈ inner, (character != '>') = true := by
    intro character member
    rw [bne_iff_ne]
    intro same
    subst same
    exact noClosing member
  have behind := Text.partsBetween_append_of_notMem absent parts
  simp only [List.append_assoc, List.singleton_append] at behind
  have whole : Text.partsBetween '<' ('<' :: inner ++ '>' :: rest) =
      [] :: (inner ++ '>' :: head) :: tail := by
    rw [List.cons_append, Text.partsBetween_cons_self, behind]
  have segment : readSegment (inner ++ '>' :: head) = readTag inner :: readText head := by
    simp [readSegment, List.takeWhile_append_of_pos ends, List.dropWhile_append_of_pos ends]
  rw [read_eq (by rwa [String.toList_ofList]), read_eq (by rwa [String.toList_ofList]),
    List.flatMap_cons, segment]
  rfl

theorem write_doctype : Token.doctype.write = '<' :: "!DOCTYPE html".toList ++ ['>'] := by
  decide

theorem write_opening (tag : String) (attributes : List (String × String)) :
    (Token.opening tag attributes).write =
      '<' :: (tag.toList ++ attributes.flatMap writeAttribute) ++ ['>'] := rfl

theorem write_closing (tag : String) :
    (Token.closing tag).write = '<' :: '/' :: tag.toList ++ ['>'] := rfl

theorem write_reference (name : String) :
    (Token.reference name).write = '&' :: name.toList ++ [';'] := rfl

/-- A written token reads as its pieces, whatever follows it. -/
theorem read_write_append {token : Token} (readable : token.isReadable = true)
    (rest : List Char) :
    read (String.ofList (token.write ++ rest)) = token.pieces ++ read (String.ofList rest) := by
  cases token with
  | doctype =>
      have declared : readTag "!DOCTYPE html".toList = .doctype := by
        decide
      rw [write_doctype, List.append_assoc, List.singleton_append,
        read_tag_append (by decide) (by decide), declared]
      rfl
  | opening tag attributes =>
      simp only [Token.isReadable, Bool.and_eq_true] at readable
      have noOpening : '<' ∉ tag.toList ++ attributes.flatMap writeAttribute := by
        simp [notMem_of_isName readable.1 (show isNameCharacter '<' = false by decide),
          notMem_flatMap_writeAttribute (.inl rfl) readable.2]
      have noClosing : '>' ∉ tag.toList ++ attributes.flatMap writeAttribute := by
        simp [notMem_of_isName readable.1 (show isNameCharacter '>' = false by decide),
          notMem_flatMap_writeAttribute (.inr rfl) readable.2]
      rw [write_opening, List.append_assoc, List.singleton_append,
        read_tag_append noOpening noClosing,
        readTag_opening readable.1 readable.2]
      rfl
  | closing tag =>
      simp only [Token.isReadable] at readable
      have noOpening : '<' ∉ '/' :: tag.toList := by
        simp [notMem_of_isName readable (show isNameCharacter '<' = false by decide)]
      have noClosing : '>' ∉ '/' :: tag.toList := by
        simp [notMem_of_isName readable (show isNameCharacter '>' = false by decide)]
      have ended : readTag ('/' :: tag.toList) = .closing tag := by
        rw [readTag, String.ofList_toList]
      rw [write_closing, List.append_assoc, List.singleton_append,
        read_tag_append noOpening noClosing, ended]
      rfl
  | text content => exact read_text_append content rest
  | reference name =>
      rcases Option.isSome_iff_exists.mp readable with ⟨value, known⟩
      rw [write_reference, List.append_assoc, List.singleton_append,
        read_reference_append known, Token.pieces, known]
      rfl

/-- Can all tokens of a list be read back? -/
def areReadable (tokens : List Token) : Bool := tokens.all Token.isReadable

/-- A written page reads as the pieces of its tokens. -/
theorem read_render {tokens : List Token} (readable : areReadable tokens = true) :
    read (render tokens) = tokens.flatMap Token.pieces := by
  rw [render]
  induction tokens with
  | nil => rfl
  | cons token tokens ih =>
      rw [areReadable, List.all_cons, Bool.and_eq_true] at readable
      rw [List.flatMap_cons, List.flatMap_cons, read_write_append readable.1, ih readable.2]

/-! ## Readable parts of a page -/

@[simp] theorem isReadable_doctype : Token.doctype.isReadable = true := rfl

@[simp] theorem isReadable_text (content : String) : (Token.text content).isReadable = true := rfl

@[simp] theorem isReadable_newline (spaces : Nat) : (newline spaces).isReadable = true := rfl

@[simp] theorem isReadable_opening (tag : String) (attributes : List (String × String)) :
    (Token.opening tag attributes).isReadable =
      (isName tag && attributes.all (isName ·.1)) := rfl

@[simp] theorem isReadable_closing (tag : String) :
    (Token.closing tag).isReadable = isName tag := rfl

@[simp] theorem isReadable_reference (name : String) :
    (Token.reference name).isReadable = (references.lookup name).isSome := rfl

@[simp] theorem areReadable_nil : areReadable [] = true := rfl

@[simp] theorem areReadable_cons (token : Token) (tokens : List Token) :
    areReadable (token :: tokens) = (token.isReadable && areReadable tokens) := rfl

@[simp] theorem areReadable_append (front back : List Token) :
    areReadable (front ++ back) = (areReadable front && areReadable back) :=
  List.all_append

@[simp] theorem areReadable_element (tag : String) (attributes : List (String × String))
    (content : List Token) :
    areReadable (element tag attributes content) =
      (isName tag && attributes.all (isName ·.1) && areReadable content) := by
  rw [element, List.cons_append, areReadable_cons, areReadable_append, areReadable_cons]
  cases named : isName tag <;> simp [named]

@[simp] theorem areReadable_textElement (tag : String) (attributes : List (String × String))
    (text : String) :
    areReadable (textElement tag attributes text) =
      (isName tag && attributes.all (isName ·.1)) := by
  simp [textElement]

@[simp] theorem areReadable_flatMap {α : Type} (items : List α) (write : α → List Token) :
    areReadable (items.flatMap write) = items.all fun item => areReadable (write item) :=
  List.all_flatMap

@[simp] theorem areReadable_lines (spaces : Nat) (parts : List (List Token)) :
    areReadable (lines spaces parts) = parts.all areReadable := by
  simp [lines]

end AccountPanel.Markup
