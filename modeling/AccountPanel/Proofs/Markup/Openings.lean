import AccountPanel.Proofs.Markup.Nested

/-!
# Opened tags

The tags that are opened in a page, in order and with their attributes. The attributes of the first
element with a tag, and the identifiers of a page, depend on nothing else, so they are read off a
layout without regard to where its elements end.
-/

namespace AccountPanel.Markup

/-- The tags that are opened in a list of tokens, with their attributes. -/
def openings (tokens : List Token) : List (String × List (String × String)) :=
  tokens.filterMap fun
    | .opening tag attributes => some (tag, attributes)
    | _ => none

@[simp] theorem openings_nil : openings [] = [] := rfl

@[simp] theorem openings_append (front back : List Token) :
    openings (front ++ back) = openings front ++ openings back :=
  List.filterMap_append

@[simp] theorem openings_opening_cons (tag : String) (attributes : List (String × String))
    (tokens : List Token) :
    openings (.opening tag attributes :: tokens) = (tag, attributes) :: openings tokens := rfl

@[simp] theorem openings_doctype_cons (tokens : List Token) :
    openings (.doctype :: tokens) = openings tokens := rfl

@[simp] theorem openings_text_cons (content : String) (tokens : List Token) :
    openings (.text content :: tokens) = openings tokens := rfl

@[simp] theorem openings_reference_cons (name : String) (tokens : List Token) :
    openings (.reference name :: tokens) = openings tokens := rfl

@[simp] theorem openings_newline_cons (spaces : Nat) (tokens : List Token) :
    openings (newline spaces :: tokens) = openings tokens := rfl

@[simp] theorem openings_element (tag : String) (attributes : List (String × String))
    (content : List Token) :
    openings (element tag attributes content) = (tag, attributes) :: openings content := by
  have closed : openings [.closing tag] = [] := rfl
  rw [element, List.cons_append, openings_opening_cons, openings_append, closed, List.append_nil]

@[simp] theorem openings_textElement (tag : String) (attributes : List (String × String))
    (text : String) : openings (textElement tag attributes text) = [(tag, attributes)] := by
  rw [textElement, openings_element, openings_text_cons, openings_nil]

@[simp] theorem openings_flatMap {α : Type} (items : List α) (write : α → List Token) :
    openings (items.flatMap write) = items.flatMap fun item => openings (write item) := by
  induction items with
  | nil => rfl
  | cons item items ih => rw [List.flatMap_cons, List.flatMap_cons, openings_append, ih]

@[simp] theorem openings_lines (spaces : Nat) (parts : List (List Token)) :
    openings (lines spaces parts) = parts.flatMap openings := by
  simp [lines]

/-- The identifiers among opened tags, in order. -/
def identifiers (opened : List (String × List (String × String))) : List String :=
  opened.flatMap fun tag => (tag.2.lookup "id").toList

@[simp] theorem identifiers_nil : identifiers [] = [] := rfl

@[simp] theorem identifiers_cons (tag : String) (attributes : List (String × String))
    (opened : List (String × List (String × String))) :
    identifiers ((tag, attributes) :: opened) =
      (attributes.lookup "id").toList ++ identifiers opened := rfl

@[simp] theorem identifiers_append (front back : List (String × List (String × String))) :
    identifiers (front ++ back) = identifiers front ++ identifiers back :=
  List.flatMap_append

/-- Where no part has an identifier, the whole has none. -/
theorem identifiers_flatMap_eq_nil {α : Type} {items : List α}
    {parts : α → List (String × List (String × String))}
    (each : ∀ item, identifiers (parts item) = []) : identifiers (items.flatMap parts) = [] := by
  induction items with
  | nil => rfl
  | cons item items ih => rw [List.flatMap_cons, identifiers_append, each, ih, List.append_nil]

namespace Piece

/-- The tags that are opened among pieces, with their attributes. -/
def openings (found : List Piece) : List (String × List (String × String)) :=
  found.filterMap fun
    | .opening tag attributes => some (tag, attributes)
    | _ => none

theorem openings_characters (characters : List Char) :
    openings (characters.map .character) = [] := by
  rw [openings, List.filterMap_map]
  exact List.filterMap_eq_nil_iff.mpr fun _ _ => rfl

theorem openings_token (token : Token) : openings token.pieces = Markup.openings [token] := by
  cases token with
  | text content => exact openings_characters content.toList
  | reference name => exact openings_characters (references.lookup name).toList
  | doctype | opening | closing => rfl

/-- A page opens the tags of its tokens. -/
theorem openings_pieces (tokens : List Token) :
    openings (pieces tokens) = Markup.openings tokens := by
  induction tokens with
  | nil => rfl
  | cons token tokens ih =>
      have split : openings (token.pieces ++ pieces tokens) =
          openings token.pieces ++ openings (pieces tokens) := List.filterMap_append
      rw [pieces_cons, split, openings_token, ih, ← openings_append, List.singleton_append]

/-- The first element with a tag has the attributes with which the tag is opened first. -/
theorem head?_elements (tag : String) (found : List Piece) :
    (elements tag found).head?.map (·.1) =
      ((openings found).find? (·.1 == tag)).map (·.2) := by
  induction found with
  | nil => rfl
  | cons piece found ih =>
      cases piece with
      | opening name attributes =>
          have opened : openings (.opening name attributes :: found) =
              (name, attributes) :: openings found := rfl
          rw [opened]
          by_cases same : name = tag
          · rw [elements, if_pos same, List.find?_cons_of_pos (by simpa using same)]
            rfl
          · rw [elements, if_neg same, List.find?_cons_of_neg (by simpa using same), ih]
      | doctype | closing | character => exact ih

/-- The identifiers of the elements among pieces, in order. -/
def ids (found : List Piece) : List String := identifiers (openings found)

theorem ids_pieces (tokens : List Token) :
    ids (pieces tokens) = identifiers (Markup.openings tokens) := by
  rw [ids, openings_pieces]

end Piece

end AccountPanel.Markup
