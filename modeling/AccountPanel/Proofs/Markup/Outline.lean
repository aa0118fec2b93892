import AccountPanel.Proofs.Markup.ReadBack

/-!
# The outline of markup

The outline of a page is what is left of it without its texts and attribute values. Whatever can act
as markup belongs to the outline: of the four characters that do, a page has those of its outline,
in the same order, and an ampersand starts either an escape or a reference of the layout.
-/

namespace AccountPanel.Markup

/-- Can this character begin or end a tag or an attribute value? -/
def isMark (character : Char) : Bool :=
  character == '<' || character == '>' || character == '"' || character == '\''

/-- The characters of a page that can begin or end something, in order. -/
def marks (page : String) : List Char := page.toList.filter isMark

/-- A token without its text or its attribute values. -/
def Token.outline : Token → Token
  | .doctype => .doctype
  | .opening tag attributes => .opening tag (attributes.map fun named => (named.1, ""))
  | .closing tag => .closing tag
  | .text _ => .text ""
  | .reference name => .reference name

/-- A list of tokens without their texts. -/
def outline (tokens : List Token) : List Token := tokens.map Token.outline

/-! ## Marks -/

theorem filter_escapeChar (character : Char) : (escapeChar character).filter isMark = [] := by
  unfold escapeChar
  split
  · decide
  · decide
  · decide
  · decide
  · decide
  next noAmpersand noOpening noClosing noQuotation noApostrophe =>
    simp only [isMark, List.filter_cons, List.filter_nil, Bool.or_eq_true, beq_iff_eq]
    exact if_neg fun mark => by
      rcases mark with ((opening | closing) | quotation) | apostrophe
      · exact noOpening opening
      · exact noClosing closing
      · exact noQuotation quotation
      · exact noApostrophe apostrophe

/-- An escaped text has no marks. -/
theorem filter_escape (text : String) : (escape text).filter isMark = [] := by
  rw [escape, List.filter_flatMap]
  exact List.flatMap_eq_nil_iff.mpr fun character _ => filter_escapeChar character

/-- The value of an attribute adds no marks to it. -/
theorem filter_writeAttribute (named : String × String) :
    (writeAttribute named).filter isMark = (writeAttribute (named.1, "")).filter isMark := by
  simp only [writeAttribute, List.filter_append, filter_escape]

theorem filter_write (token : Token) :
    token.write.filter isMark = token.outline.write.filter isMark := by
  cases token with
  | opening tag attributes =>
      have values : (attributes.flatMap writeAttribute).filter isMark =
          ((attributes.map fun named => (named.1, "")).flatMap writeAttribute).filter isMark := by
        rw [List.flatMap_map, List.filter_flatMap, List.filter_flatMap]
        congr
        funext named
        exact filter_writeAttribute named
      simp only [Token.outline, write_opening, List.filter_append, List.filter_cons, values]
  | text content => exact (filter_escape content).trans (filter_escape "").symm
  | doctype | closing | reference => rfl

/-- The marks of a page are those of its outline. -/
theorem marks_render (tokens : List Token) :
    marks (render tokens) = marks (render (outline tokens)) := by
  rw [marks, marks, render, render, String.toList_ofList, String.toList_ofList, outline,
    List.flatMap_map, List.filter_flatMap, List.filter_flatMap]
  congr
  funext token
  exact filter_write token

/-! ## Parts of an outline -/

@[simp] theorem outline_nil : outline [] = [] := rfl

@[simp] theorem outline_append (front back : List Token) :
    outline (front ++ back) = outline front ++ outline back :=
  List.map_append

@[simp] theorem outline_newline_cons (spaces : Nat) (tokens : List Token) :
    outline (newline spaces :: tokens) = .text "" :: outline tokens := rfl

@[simp] theorem outline_element (tag : String) (attributes : List (String × String))
    (content : List Token) :
    outline (element tag attributes content) =
      element tag (attributes.map fun named => (named.1, "")) (outline content) := by
  rw [element, List.cons_append, element, List.cons_append, outline, List.map_cons, List.map_append]
  rfl

@[simp] theorem outline_flatMap {α : Type} (items : List α) (write : α → List Token) :
    outline (items.flatMap write) = items.flatMap fun item => outline (write item) :=
  List.map_flatMap

@[simp] theorem outline_lines (spaces : Nat) (parts : List (List Token)) :
    outline (lines spaces parts) = parts.flatMap fun part => .text "" :: outline part :=
  outline_flatMap parts _

/-- Items with one outline have an outline that their number alone decides. -/
theorem outline_flatMap_eq {α : Type} {items others : List α} {write rewrite : α → List Token}
    (same : ∀ item other, outline (write item) = outline (rewrite other))
    (number : items.length = others.length) :
    outline (items.flatMap write) = outline (others.flatMap rewrite) := by
  induction items generalizing others with
  | nil =>
      rw [List.length_eq_zero_iff.mp number.symm]
      rfl
  | cons item items ih =>
      cases others with
      | nil => cases number
      | cons other others =>
          have rest := ih (Nat.succ.inj number)
          rw [List.flatMap_cons, List.flatMap_cons, outline_append, outline_append,
            same item other, rest]

/-! ## Ampersands -/

/-- The escapes of the characters that could act as markup. -/
def escapes : List String := ["&amp;", "&lt;", "&gt;", "&quot;", "&#x27;"]

/-- Does an escape start here? -/
def StartsEscape (written : List Char) : Prop := ∃ escape ∈ escapes, escape.toList <+: written

/-- Does every ampersand in a written text start an escape, whatever follows the text? -/
def EscapesAmpersands (written : List Char) : Prop :=
  ∀ front behind, written = front ++ '&' :: behind → StartsEscape ('&' :: behind)

theorem StartsEscape.append {written : List Char} (starts : StartsEscape written)
    (rest : List Char) : StartsEscape (written ++ rest) := by
  rcases starts with ⟨escape, known, start⟩
  exact ⟨escape, known, start.trans (List.prefix_append written rest)⟩

namespace EscapesAmpersands

variable {first second written : List Char}

theorem of_notMem (absent : '&' ∉ written) : EscapesAmpersands written := by
  intro front behind split
  rw [split] at absent
  exact (absent (List.mem_append_right front List.mem_cons_self)).elim

theorem append (one : EscapesAmpersands first) (other : EscapesAmpersands second) :
    EscapesAmpersands (first ++ second) := by
  intro front behind split
  rcases List.append_eq_append_iff.mp split with ⟨between, -, rest⟩ | ⟨between, cut, rest⟩
  · exact other between behind rest
  · cases between with
    | nil => exact other [] behind rest.symm
    | cons mark between =>
        cases rest
        exact (one front between cut).append second

theorem flatMap {α : Type} {items : List α} {write : α → List Char}
    (each : ∀ item ∈ items, EscapesAmpersands (write item)) :
    EscapesAmpersands (items.flatMap write) := by
  induction items with
  | nil => exact of_notMem List.not_mem_nil
  | cons item items ih =>
      rw [List.flatMap_cons]
      exact (each item List.mem_cons_self).append
        (ih fun other member => each other (List.mem_cons_of_mem item member))

end EscapesAmpersands

/-- An escape has no ampersand but its own. -/
theorem escapesAmpersands_of_mem {escape : String} (known : escape ∈ escapes) :
    EscapesAmpersands escape.toList := by
  have own : '&' ∉ escape.toList.tail := by
    simp only [escapes, List.mem_cons, List.not_mem_nil, or_false] at known
    rcases known with rfl | rfl | rfl | rfl | rfl <;> decide
  intro front behind split
  cases front with
  | nil => exact ⟨escape, known, [], (List.append_nil _).trans split⟩
  | cons mark front =>
      rw [split] at own
      exact (own (List.mem_append_right front List.mem_cons_self)).elim

theorem escapesAmpersands_escapeChar (character : Char) :
    EscapesAmpersands (escapeChar character) := by
  unfold escapeChar
  split
  · exact escapesAmpersands_of_mem (by decide)
  · exact escapesAmpersands_of_mem (by decide)
  · exact escapesAmpersands_of_mem (by decide)
  · exact escapesAmpersands_of_mem (by decide)
  · exact escapesAmpersands_of_mem (by decide)
  next noAmpersand _ _ _ _ =>
    apply EscapesAmpersands.of_notMem
    intro member
    exact noAmpersand (List.mem_singleton.mp member).symm

theorem escapesAmpersands_escape (text : String) : EscapesAmpersands (escape text) :=
  .flatMap fun character _ => escapesAmpersands_escapeChar character

theorem escapesAmpersands_writeAttribute {named : String × String} (plain : isName named.1 = true) :
    EscapesAmpersands (writeAttribute named) := by
  have name : EscapesAmpersands (' ' :: named.1.toList) := .of_notMem <| by
    simp [notMem_of_isName plain (show isNameCharacter '&' = false by decide)]
  have equals : EscapesAmpersands "=\"".toList := .of_notMem (by decide)
  have quotation : EscapesAmpersands ['"'] := .of_notMem (by decide)
  exact ((name.append equals).append (escapesAmpersands_escape named.2)).append quotation

/-- An ampersand in a written token starts an escape, unless the token is a reference. -/
theorem escapesAmpersands_write {token : Token} (readable : token.isReadable = true)
    (noReference : ∀ name, token ≠ .reference name) : EscapesAmpersands token.write := by
  cases token with
  | doctype => exact .of_notMem (by decide)
  | opening tag attributes =>
      simp only [Token.isReadable, Bool.and_eq_true, List.all_eq_true] at readable
      have bracket : EscapesAmpersands ['>'] := .of_notMem (by decide)
      have name : EscapesAmpersands ('<' :: tag.toList) := .of_notMem <| by
        simp [notMem_of_isName readable.1 (show isNameCharacter '&' = false by decide)]
      have values : EscapesAmpersands (attributes.flatMap writeAttribute) :=
        .flatMap fun named member => escapesAmpersands_writeAttribute (readable.2 named member)
      exact (name.append values).append bracket
  | closing tag =>
      rw [write_closing]
      apply EscapesAmpersands.of_notMem
      simp [notMem_of_isName readable (show isNameCharacter '&' = false by decide)]
  | text content => exact escapesAmpersands_escape content
  | reference name => exact (noReference name rfl).elim

/-- The ampersand of a reference is its first character. -/
theorem eq_nil_of_write_reference {name : String} (known : (references.lookup name).isSome)
    {front behind : List Char} (split : (Token.reference name).write = front ++ '&' :: behind) :
    front = [] := by
  rcases Option.isSome_iff_exists.mp known with ⟨value, found⟩
  have own : '&' ∉ name.toList ++ [';'] := by
    simp [notMem_of_lookup_references found '&' (by simp)]
  cases front with
  | nil => rfl
  | cons mark front =>
      have rest : name.toList ++ [';'] = front ++ '&' :: behind := (List.cons.inj split).2
      rw [rest] at own
      exact (own (List.mem_append_right front List.mem_cons_self)).elim

/-- Each ampersand of a page starts an escape, or it is that of a reference among the tokens. -/
theorem ampersand_render {tokens : List Token} (readable : areReadable tokens = true)
    {front behind : List Char} (split : (render tokens).toList = front ++ '&' :: behind) :
    StartsEscape ('&' :: behind) ∨
      ∃ before name after, tokens = before ++ .reference name :: after ∧
        front = before.flatMap Token.write ∧
        '&' :: behind = (Token.reference name).write ++ after.flatMap Token.write := by
  rw [render, String.toList_ofList] at split
  -- The ampersand stands behind the first token or inside it, and of all tokens only a reference
  -- writes one that is not escaped.
  induction tokens generalizing front with
  | nil => cases front <;> cases split
  | cons token tokens ih =>
      rw [areReadable_cons, Bool.and_eq_true] at readable
      rw [List.flatMap_cons] at split
      have later : ∀ between, front = token.write ++ between →
          tokens.flatMap Token.write = between ++ '&' :: behind →
          StartsEscape ('&' :: behind) ∨
            ∃ before name after, token :: tokens = before ++ .reference name :: after ∧
              front = before.flatMap Token.write ∧
              '&' :: behind = (Token.reference name).write ++ after.flatMap Token.write := by
        intro between cut rest
        rcases ih readable.2 rest with starts | ⟨before, name, after, place, written, reference⟩
        · exact .inl starts
        · refine .inr ⟨token :: before, name, after, ?_, ?_, reference⟩
          · rw [place, List.cons_append]
          · rw [cut, written, List.flatMap_cons]
      rcases List.append_eq_append_iff.mp split with ⟨between, cut, rest⟩ | ⟨between, cut, rest⟩
      · exact later between cut rest
      · cases between with
        | nil => exact later [] (by simpa using cut.symm) rest.symm
        | cons mark between =>
            obtain ⟨rfl, rest⟩ := List.cons.inj rest
            by_cases isReference : ∃ name, token = .reference name
            · rcases isReference with ⟨name, rfl⟩
              have first := eq_nil_of_write_reference readable.1 cut
              subst first
              refine .inr ⟨[], name, tokens, rfl, rfl, ?_⟩
              rw [cut, rest]
              rfl
            · have noReference : ∀ name, token ≠ .reference name :=
                fun name same => isReference ⟨name, same⟩
              rw [rest]
              exact .inl ((escapesAmpersands_write readable.1 noReference front between cut).append
                (tokens.flatMap Token.write))

end AccountPanel.Markup
