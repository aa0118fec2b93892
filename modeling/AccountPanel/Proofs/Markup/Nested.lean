import AccountPanel.Proofs.Markup.ReadBack

/-!
# Nested markup

In a nested list of tokens whatever is opened is closed again behind its content, except for the
elements that have no content. Such a list is read element by element, whatever a reader looks for
at their tags: what is found in two lists one after the other is what is found in the first and then
in the second, and an element ends where it was closed, whatever follows.
-/

namespace AccountPanel.Markup

/-- The elements that have no content and are never closed. -/
def voidTags : List String := ["meta", "link", "img", "br", "input"]

/-- Lists of tokens in which every element with content is closed behind its content. -/
inductive Nested : List Token → Prop where
  | nil : Nested []
  | doctype {rest : List Token} : Nested rest → Nested (.doctype :: rest)
  | text {rest : List Token} (content : String) : Nested rest → Nested (.text content :: rest)
  | reference {rest : List Token} (name : String) : Nested rest → Nested (.reference name :: rest)
  | void {tag : String} {attributes : List (String × String)} {rest : List Token} :
      tag ∈ voidTags → Nested rest → Nested (.opening tag attributes :: rest)
  | container {tag : String} {attributes : List (String × String)} {content rest : List Token} :
      tag ∉ voidTags → Nested content → Nested rest →
      Nested (element tag attributes content ++ rest)

/-- The pieces of a list of tokens. -/
def pieces (tokens : List Token) : List Piece := tokens.flatMap Token.pieces

@[simp] theorem pieces_nil : pieces [] = [] := rfl

@[simp] theorem pieces_cons (token : Token) (tokens : List Token) :
    pieces (token :: tokens) = token.pieces ++ pieces tokens := rfl

@[simp] theorem pieces_append (front back : List Token) :
    pieces (front ++ back) = pieces front ++ pieces back := by
  simp [pieces]

theorem pieces_element (tag : String) (attributes : List (String × String))
    (content : List Token) :
    pieces (element tag attributes content) =
      .opening tag attributes :: (pieces content ++ [.closing tag]) := by
  simp [element, Token.pieces]

namespace Nested

variable {front back tokens content : List Token} {tag : String}
variable {attributes : List (String × String)}

theorem append (first : Nested front) (second : Nested back) : Nested (front ++ back) := by
  induction first with
  | nil => exact second
  | doctype _ ih => exact .doctype ih
  | text content _ ih => exact .text content ih
  | reference name _ ih => exact .reference name ih
  | void isVoid _ ih => exact .void isVoid ih
  | container isContainer inside _ _ ih =>
      rw [List.append_assoc]
      exact .container isContainer inside ih

theorem newline (rest : Nested tokens) (spaces : Nat) :
    Nested (Markup.newline spaces :: tokens) :=
  .text _ rest

theorem element (isContainer : tag ∉ voidTags) (inside : Nested content) :
    Nested (Markup.element tag attributes content) := by
  simpa using container isContainer inside .nil

theorem textElement (isContainer : tag ∉ voidTags) (text : String) :
    Nested (Markup.textElement tag attributes text) :=
  element isContainer (.text text .nil)

theorem flatMap {α : Type} {items : List α} {write : α → List Token}
    (each : ∀ item ∈ items, Nested (write item)) : Nested (items.flatMap write) := by
  induction items with
  | nil => exact .nil
  | cons item items ih =>
      rw [List.flatMap_cons]
      exact (each item List.mem_cons_self).append
        (ih fun other member => each other (List.mem_cons_of_mem item member))

theorem lines {parts : List (List Token)} {spaces : Nat}
    (each : ∀ part ∈ parts, Nested part) : Nested (Markup.lines spaces parts) :=
  flatMap fun part member => (each part member).newline spaces

theorem noLines {spaces : Nat} : Nested (Markup.lines spaces []) := .nil

theorem line {part : List Token} {parts : List (List Token)} {spaces : Nat}
    (first : Nested part) (others : Nested (Markup.lines spaces parts)) :
    Nested (Markup.lines spaces (part :: parts)) := by
  rw [Markup.lines, List.flatMap_cons]
  exact (first.newline spaces).append others

end Nested

/-! ## Readers of nested markup -/

/-- A reader that goes through pieces and collects what it finds at the tags that open an element.
What is found at a tag depends on no more than the element that the tag opens. -/
structure Collects {α : Type} (reader : List Piece → List α)
    (found : String → List (String × String) → List Piece → List α) : Prop where
  nil : reader [] = []
  doctype : ∀ rest, reader (.doctype :: rest) = reader rest
  character : ∀ value rest, reader (.character value :: rest) = reader rest
  closing : ∀ tag rest, reader (.closing tag :: rest) = reader rest
  opening : ∀ tag attributes rest,
    reader (.opening tag attributes :: rest) = found tag attributes rest ++ reader rest
  void : ∀ tag attributes rest, tag ∈ voidTags →
    found tag attributes rest = found tag attributes []
  closed : ∀ tag attributes content rest,
    found tag attributes (content ++ .closing tag :: rest) =
      found tag attributes (content ++ [.closing tag])

namespace Collects

variable {α : Type} {reader : List Piece → List α}
variable {found : String → List (String × String) → List Piece → List α}
variable {tag : String} {attributes : List (String × String)}
variable {front content part : List Token} {parts : List (List Token)} {spaces : Nat}

theorem characters_append (reads : Collects reader found) (characters : List Char)
    (rest : List Piece) : reader (characters.map .character ++ rest) = reader rest := by
  induction characters with
  | nil => rfl
  | cons value characters ih =>
      rw [List.map_cons, List.cons_append, reads.character, ih]

theorem element_append (reads : Collects reader found)
    (splits : ∀ rest, reader (pieces content ++ rest) = reader (pieces content) ++ reader rest)
    (rest : List Piece) :
    reader (pieces (element tag attributes content) ++ rest) =
      found tag attributes (pieces content ++ [.closing tag]) ++ reader (pieces content) ++
        reader rest := by
  rw [pieces_element, List.cons_append, List.append_assoc, List.singleton_append, reads.opening,
    reads.closed, splits, reads.closing, List.append_assoc]

/-- What is found in nested markup does not depend on what follows it. -/
theorem pieces_append (reads : Collects reader found) (nested : Nested front)
    (rest : List Piece) : reader (pieces front ++ rest) = reader (pieces front) ++ reader rest := by
  induction nested generalizing rest with
  | nil => rw [pieces_nil, reads.nil, List.nil_append, List.nil_append]
  | doctype _ ih =>
      simp only [pieces_cons, Token.pieces, List.cons_append, List.nil_append, reads.doctype]
      exact ih rest
  | text content _ ih =>
      simp only [pieces_cons, Token.pieces, List.append_assoc, reads.characters_append]
      exact ih rest
  | reference name _ ih =>
      simp only [pieces_cons, Token.pieces, List.append_assoc, reads.characters_append]
      exact ih rest
  | @void _ _ behind isVoid _ ih =>
      simp only [pieces_cons, Token.pieces, List.cons_append, List.nil_append]
      rw [reads.opening, reads.void _ _ (pieces behind ++ rest) isVoid, ih, reads.opening,
        reads.void _ _ (pieces behind) isVoid, List.append_assoc]
  | @container _ _ _ behind _ _ _ insideIH restIH =>
      rw [Markup.pieces_append, List.append_assoc, reads.element_append insideIH,
        reads.element_append insideIH, restIH, List.append_assoc _ (reader (pieces behind))]

theorem append (reads : Collects reader found) (nested : Nested front) (back : List Token) :
    reader (pieces (front ++ back)) = reader (pieces front) ++ reader (pieces back) := by
  rw [Markup.pieces_append, reads.pieces_append nested]

theorem flatMap (reads : Collects reader found) {β : Type} {items : List β}
    {write : β → List Token} (each : ∀ item ∈ items, Nested (write item)) :
    reader (pieces (items.flatMap write)) =
      items.flatMap fun item => reader (pieces (write item)) := by
  induction items with
  | nil => exact reads.nil
  | cons item items ih =>
      rw [List.flatMap_cons, List.flatMap_cons, reads.append (each item List.mem_cons_self),
        ih fun other member => each other (List.mem_cons_of_mem item member)]

theorem text_cons (reads : Collects reader found) (text : String) (tokens : List Token) :
    reader (pieces (.text text :: tokens)) = reader (pieces tokens) :=
  reads.characters_append _ (pieces tokens)

theorem newline_cons (reads : Collects reader found) (spaces : Nat) (tokens : List Token) :
    reader (pieces (newline spaces :: tokens)) = reader (pieces tokens) :=
  reads.text_cons _ tokens

/-- The line break behind a part adds nothing. -/
theorem append_newline (reads : Collects reader found) (nested : Nested front) :
    reader (pieces (front ++ [newline spaces])) = reader (pieces front) := by
  rw [reads.append nested, reads.newline_cons, pieces_nil, reads.nil, List.append_nil]

theorem noLines (reads : Collects reader found) : reader (pieces (lines spaces [])) = [] :=
  reads.nil

theorem line (reads : Collects reader found) (nested : Nested part) :
    reader (pieces (lines spaces (part :: parts))) =
      reader (pieces part) ++ reader (pieces (lines spaces parts)) := by
  rw [lines, List.flatMap_cons, reads.append (nested.newline spaces), reads.newline_cons]
  rfl

/-- An element gives what is found at its tag, and then what is found in its content. -/
theorem element (reads : Collects reader found) (nested : Nested content) :
    reader (pieces (element tag attributes content)) =
      found tag attributes (pieces content ++ [.closing tag]) ++ reader (pieces content) := by
  rw [pieces_element, reads.opening, reads.pieces_append nested, reads.closing, reads.nil,
    List.append_nil]

end Collects

/-! ## Elements of nested markup -/

/-- The tags that are closed in a list of tokens. -/
def closings (tokens : List Token) : List String :=
  tokens.filterMap fun
    | .closing tag => some tag
    | _ => none

@[simp] theorem closings_nil : closings [] = [] := rfl

@[simp] theorem closings_append (front back : List Token) :
    closings (front ++ back) = closings front ++ closings back :=
  List.filterMap_append

@[simp] theorem closings_text_cons (content : String) (tokens : List Token) :
    closings (.text content :: tokens) = closings tokens := rfl

@[simp] theorem closings_opening_cons (tag : String) (attributes : List (String × String))
    (tokens : List Token) : closings (.opening tag attributes :: tokens) = closings tokens := rfl

@[simp] theorem closings_reference_cons (name : String) (tokens : List Token) :
    closings (.reference name :: tokens) = closings tokens := rfl

@[simp] theorem closings_newline_cons (spaces : Nat) (tokens : List Token) :
    closings (newline spaces :: tokens) = closings tokens := rfl

@[simp] theorem closings_element (tag : String) (attributes : List (String × String))
    (content : List Token) :
    closings (element tag attributes content) = closings content ++ [tag] := by
  rw [element, List.cons_append, closings_opening_cons, closings_append]
  rfl

@[simp] theorem closings_textElement (tag : String) (attributes : List (String × String))
    (text : String) : closings (textElement tag attributes text) = [tag] := by
  simp [textElement]

@[simp] theorem closings_flatMap {α : Type} (items : List α) (write : α → List Token) :
    closings (items.flatMap write) = items.flatMap fun item => closings (write item) := by
  induction items with
  | nil => rfl
  | cons item items ih => rw [List.flatMap_cons, List.flatMap_cons, closings_append, ih]

@[simp] theorem closings_lines (spaces : Nat) (parts : List (List Token)) :
    closings (lines spaces parts) = parts.flatMap closings := by
  simp [lines]

namespace Piece

variable {tag name : String} {attributes : List (String × String)}
variable {tokens content : List Token}

@[simp] theorem elements_nil (tag : String) : elements tag [] = [] := rfl

/-- The content of an element ends where the element is closed. -/
theorem takeWhile_closing_append (before behind : List Piece) :
    (before ++ .closing tag :: behind).takeWhile (· != .closing tag) =
      before.takeWhile (· != .closing tag) := by
  induction before with
  | nil => simp
  | cons piece before ih => simp [List.takeWhile_cons, ih]

/-- The element that a tag opens, if it is one that is looked for. -/
def elementAt (tag name : String) (attributes : List (String × String)) (rest : List Piece) :
    List (List (String × String) × List Piece) :=
  if name = tag then [(attributes, rest.takeWhile (· != .closing tag))] else []

theorem elementAt_of_ne (different : name ≠ tag) (rest : List Piece) :
    elementAt tag name attributes rest = [] :=
  if_neg different

theorem collects_elements (container : tag ∉ voidTags) :
    Collects (elements tag) (elementAt tag) where
  nil := rfl
  doctype _ := rfl
  character _ _ := rfl
  closing _ _ := rfl
  opening name attributes rest := by
    rw [elements, elementAt]
    split <;> rfl
  void name attributes rest isVoid := by
    have different := ne_of_mem_of_not_mem isVoid container
    rw [elementAt_of_ne different, elementAt_of_ne different]
  closed name attributes content rest := by
    by_cases same : name = tag
    · subst same
      rw [elementAt, elementAt, takeWhile_closing_append, takeWhile_closing_append]
    · rw [elementAt_of_ne same, elementAt_of_ne same]

/-- Elements with another tag are found inside an element. -/
theorem elements_element_of_ne (container : tag ∉ voidTags) (different : name ≠ tag)
    (nested : Nested content) :
    elements tag (pieces (element name attributes content)) = elements tag (pieces content) := by
  rw [(collects_elements container).element nested, elementAt_of_ne different,
    List.nil_append]

/-- Where no element with a tag is closed, there is none. -/
theorem elements_eq_nil (container : tag ∉ voidTags) (nested : Nested tokens)
    (absent : tag ∉ closings tokens) :
    elements tag (pieces tokens) = [] := by
  have reads := collects_elements container
  induction nested with
  | nil => rfl
  | doctype _ ih => exact ih absent
  | text content _ ih => exact (reads.characters_append _ _).trans (ih absent)
  | reference name _ ih => exact (reads.characters_append _ _).trans (ih absent)
  | void isVoid _ ih =>
      rw [pieces_cons, Token.pieces, List.cons_append, reads.opening,
        elementAt_of_ne (ne_of_mem_of_not_mem isVoid container)]
      exact ih absent
  | @container name _ _ _ isContainer inside _ insideIH restIH =>
      simp only [closings_append, closings_element, List.mem_append, List.mem_singleton,
        not_or] at absent
      have different : name ≠ tag := Ne.symm absent.1.2
      rw [reads.append (.element isContainer inside),
        elements_element_of_ne container different inside, insideIH absent.1.1, restIH absent.2,
        List.append_nil]

/-- Where no element with a tag is found, none is opened. -/
theorem opening_notMem_of_elements_eq_nil {found : List Piece} (nothing : elements tag found = [])
    (attributes : List (String × String)) : .opening tag attributes ∉ found := by
  induction found with
  | nil => exact List.not_mem_nil
  | cons piece found ih =>
      intro member
      cases piece with
      | opening name others =>
          rw [elements] at nothing
          split at nothing
          · exact List.cons_ne_nil _ _ nothing
          · next different =>
            rcases List.mem_cons.mp member with same | behind
            · exact different (Piece.opening.inj same).1.symm
            · exact ih nothing behind
      | doctype | closing | character =>
          rcases List.mem_cons.mp member with same | behind
          · cases same
          · exact ih nothing behind

theorem closing_notMem_pieces (absent : tag ∉ closings tokens) :
    .closing tag ∉ pieces tokens := by
  intro member
  rcases List.mem_flatMap.mp member with ⟨token, inside, among⟩
  cases token with
  | closing other =>
      simp only [Token.pieces, List.mem_singleton, closing.injEq] at among
      subst among
      exact absent (List.mem_filterMap.mpr ⟨_, inside, rfl⟩)
  | doctype | opening | text | reference => simp [Token.pieces] at among

/-- Content in which a tag is not closed is read as a whole. -/
theorem takeWhile_closing_pieces (absent : tag ∉ closings content) :
    (pieces content).takeWhile (· != .closing tag) = pieces content := by
  have inside : ∀ piece ∈ pieces content, (piece != .closing tag) = true := by
    intro piece member
    rw [bne_iff_ne]
    intro same
    subst same
    exact closing_notMem_pieces absent member
  have whole := @List.takeWhile_append_of_pos _ (· != .closing tag) (pieces content) [] inside
  simpa using whole

/-- An element without elements of its own tag inside is found with its content. -/
theorem elements_element_self (container : tag ∉ voidTags) (nested : Nested content)
    (absent : tag ∉ closings content) :
    elements tag (pieces (element tag attributes content)) = [(attributes, pieces content)] := by
  rw [(collects_elements container).element nested, elementAt, if_pos rfl,
    takeWhile_closing_append, takeWhile_closing_pieces absent,
    elements_eq_nil container nested absent]
  rfl

theorem elements_textElement_self (container : tag ∉ voidTags) (text : String) :
    elements tag (pieces (textElement tag attributes text)) = [(attributes, pieces [.text text])] :=
  elements_element_self container (.text text .nil) (by simp)

theorem elements_textElement_of_ne (container : tag ∉ voidTags) (different : name ≠ tag)
    (text : String) :
    elements tag (pieces (textElement name attributes text)) = [] := by
  rw [textElement, elements_element_of_ne container different (.text text .nil)]
  exact elements_eq_nil container (.text text .nil) (by simp)

/-- The characters of a text are the text. -/
theorem text_pieces_text (content : String) : text (pieces [.text content]) = content := by
  rw [pieces_cons, pieces_nil, List.append_nil, Token.pieces, text, List.filterMap_map]
  exact (congrArg String.ofList List.filterMap_some).trans String.ofList_toList

end Piece

end AccountPanel.Markup
