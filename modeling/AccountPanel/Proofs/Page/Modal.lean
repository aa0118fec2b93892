import AccountPanel.Page.Content
import AccountPanel.Proofs.Page.Elements
import AccountPanel.Proofs.Page.Form

/-!
# The form of the modal, read back

The form that a reader finds in an open modal holds what the modal holds. The two fields hold the
two texts of the draft, and the text area divides the message beside the first field from the
message beside the second.
-/

namespace AccountPanel.Page

open Markup Piece

variable (view : View)

/-! ## The fields -/

theorem fieldsAmong_fieldError (message : String) :
    Form.fieldsAmong (pieces (fieldError message)) = [] := by
  have reads := Form.collects_fieldsAmong
  rw [fieldError]
  split
  · rfl
  · have note : Nested (textElement "p" [("class", "field-error")] message) :=
      .textElement (by decide) message
    rw [reads.append_newline (note.newline 2), reads.newline_cons,
      Form.fieldsAmong_textElement (by decide) (by decide)]

theorem nested_label (name text : String) : Nested (textElement "label" [("for", name)] text) :=
  .textElement (by decide) text

theorem nested_nameInput : Nested (nameInput view) := .void (by decide) .nil

theorem nested_textInput : Nested (textInput view) := .textElement (by decide) _

theorem fieldsAmong_nameFields :
    Form.fieldsAmong (pieces (nameFields view)) = [("name", view.form.draft.name)] := by
  have reads := Form.collects_fieldsAmong
  have input : Form.fieldsAmong (pieces (nameInput view)) = [("name", view.form.draft.name)] := by
    rw [nameInput, Form.fieldsAmong_input]
    rfl
  rw [nameFields, reads.line (nested_label _ _), reads.line (nested_nameInput view),
    reads.line (nested_fieldError view.nameError), reads.line (nested_label _ _),
    Form.fieldsAmong_textElement (by decide) (by decide),
    Form.fieldsAmong_textElement (by decide) (by decide), input, fieldsAmong_fieldError]
  rfl

theorem fieldsAmong_formActions : Form.fieldsAmong (pieces (formActions view)) = [] := by
  have reads := Form.collects_fieldsAmong
  have link : Nested
      (textElement "a" [("class", "button"), ("id", "cancel-ssh-key"), ("href", view.keysUrl)]
        "Cancel") := .textElement (by decide) _
  have button : Nested
      (textElement "button" [("type", "submit"), ("class", "button primary")] "Save") :=
    .textElement (by decide) _
  have parts : Nested (lines 4 [_, _]) := .line link (.line button .noLines)
  rw [formActions,
    Form.fieldsAmong_element (by decide) (by decide) (parts.append (.newline .nil 2)),
    reads.append_newline parts, reads.line link, reads.line button,
    Form.fieldsAmong_textElement (by decide) (by decide),
    Form.fieldsAmong_textElement (by decide) (by decide)]
  rfl

theorem fieldsAmong_textFields :
    Form.fieldsAmong (pieces (textFields view)) = [("key", view.form.draft.text)] := by
  have reads := Form.collects_fieldsAmong
  have area : Form.fieldsAmong (pieces (textInput view)) = [("key", view.form.draft.text)] := by
    rw [textInput, Form.fieldsAmong_textArea]
    rfl
  rw [textFields, reads.line (nested_textInput view), reads.line (nested_fieldError view.textError),
    reads.line (nested_formActions view), area, fieldsAmong_fieldError, fieldsAmong_formActions]
  rfl

/-- The fields of the form hold the texts of the draft. -/
theorem fieldsAmong_formFields :
    Form.fieldsAmong (pieces (formFields view)) =
      [("name", view.form.draft.name), ("key", view.form.draft.text)] := by
  have reads := Form.collects_fieldsAmong
  rw [formFields, reads.append_newline ((nested_nameFields view).append (nested_textFields view)),
    reads.append (nested_nameFields view), fieldsAmong_nameFields, fieldsAmong_textFields]
  rfl

/-! ## The messages -/

theorem elements_p_fieldError (message : String) :
    elements "p" (pieces (fieldError message)) =
      if message = "" then [] else [([("class", "field-error")], pieces [.text message])] := by
  have container : "p" ∉ voidTags := by decide
  have reads := collects_elements container
  rw [fieldError]
  by_cases empty : message = ""
  · subst empty
    rfl
  · have note : Nested (textElement "p" [("class", "field-error")] message) :=
      .textElement (by decide) message
    rw [if_neg (by simpa using empty), if_neg empty, reads.append_newline (note.newline 2),
      reads.newline_cons, elements_textElement_self container]

/-- Where the one place of a message is found, the message is read. -/
theorem errorsAmong_of_elements {found : List Piece} {message : String}
    (place : elements "p" found = elements "p" (pieces (fieldError message))) :
    Reading.errorsAmong found = message := by
  rw [Reading.errorsAmong, classed, place, elements_p_fieldError]
  by_cases empty : message = ""
  · subst empty
    rfl
  · rw [if_neg empty]
    simpa [List.lookup_cons] using text_pieces_text message

theorem elements_p_nameFields :
    elements "p" (pieces (nameFields view)) =
      elements "p" (pieces (fieldError view.nameError)) := by
  have container : "p" ∉ voidTags := by decide
  have reads := collects_elements container
  rw [nameFields, reads.line (nested_label _ _), reads.line (nested_nameInput view),
    reads.line (nested_fieldError view.nameError), reads.line (nested_label _ _),
    elements_textElement_of_ne container (by decide),
    elements_textElement_of_ne container (by decide),
    elements_eq_nil container (nested_nameInput view) (by simp [nameInput])]
  simp [reads.noLines]

theorem elements_p_formActions : elements "p" (pieces (formActions view)) = [] :=
  elements_eq_nil (by decide) (nested_formActions view) (by simp [formActions])

/-- Messages are read on both sides of the text area. -/
theorem fieldErrors_append {front behind : List Piece} {attributes : List (String × String)}
    (noArea : ∀ others, .opening "textarea" others ∉ front)
    (area : behind.head? = some (.opening "textarea" attributes)) :
    Reading.fieldErrors (front ++ behind) =
      (Reading.errorsAmong front, Reading.errorsAmong behind) := by
  have passes : ∀ piece ∈ front, (!Reading.isArea piece) = true := by
    intro piece member
    cases piece with
    | opening tag others =>
        have different : tag ≠ "textarea" := by
          intro same
          subst same
          exact noArea others member
        simpa [Reading.isArea] using different
    | doctype | closing | character => rfl
  rcases List.head?_eq_some_iff.mp area with ⟨rest, rfl⟩
  rw [Reading.fieldErrors, List.takeWhile_append_of_pos passes, List.dropWhile_append_of_pos passes]
  simp [Reading.isArea]

/-- The messages of the form are those beside its fields. -/
theorem fieldErrors_formFields :
    Reading.fieldErrors (pieces (formFields view)) = (view.nameError, view.textError) := by
  have container : "p" ∉ voidTags := by decide
  have reads := collects_elements container
  have notes : Nested (lines 2 [fieldError view.textError, formActions view]) :=
    .line (nested_fieldError view.textError) (.line (nested_formActions view) .noLines)
  have front := (nested_nameFields view).append (.newline .nil 2)
  have noArea : elements "textarea" (pieces (nameFields view ++ [newline 2])) = [] :=
    elements_eq_nil (by decide) front (by simp [nameFields, nameInput, mem_closings_fieldError])
  have split : formFields view =
      (nameFields view ++ [newline 2]) ++
        (textInput view ++ (lines 2 [fieldError view.textError, formActions view] ++
          [newline 0])) := by
    simp [formFields, textFields, lines]
  have nameError : Reading.errorsAmong (pieces (nameFields view ++ [newline 2])) =
      view.nameError := by
    apply errorsAmong_of_elements
    rw [reads.append_newline (nested_nameFields view), elements_p_nameFields]
  have textError : Reading.errorsAmong
      (pieces (textInput view ++ (lines 2 [fieldError view.textError, formActions view] ++
        [newline 0]))) = view.textError := by
    apply errorsAmong_of_elements
    rw [reads.append (nested_textInput view), textInput,
      elements_textElement_of_ne container (by decide), reads.append_newline notes,
      reads.line (nested_fieldError view.textError), reads.line (nested_formActions view),
      elements_p_formActions]
    simp [reads.noLines]
  rw [split, pieces_append, fieldErrors_append (opening_notMem_of_elements_eq_nil noArea),
    nameError, textError]
  rw [textInput, textElement, element]
  rfl

/-! ## The links -/

theorem elements_a_modalHeader :
    elements "a" (pieces (modalHeader view)) =
      [([("class", "modal-close"), ("href", view.keysUrl), ("aria-label", "Close")],
        pieces [.reference "times"])] := by
  have container : "a" ∉ voidTags := by decide
  have reads := collects_elements container
  have title : Nested (textElement "h2" [("id", "ssh-key-modal-title")] "New SSH key") :=
    .textElement (by decide) _
  have mark : Nested [.reference "times"] := .reference _ .nil
  have link : Nested (element "a" [("class", "modal-close"), ("href", view.keysUrl),
      ("aria-label", "Close")] [.reference "times"]) := .element (by decide) mark
  have parts : Nested (lines 12 [_, _]) := .line title (.line link .noLines)
  rw [modalHeader, elements_element_of_ne container (by decide) (parts.append (.newline .nil 10)),
    reads.append_newline parts, reads.line title, elements_textElement_of_ne container (by decide),
    reads.line link, elements_element_self container mark (by simp)]
  rfl

theorem elements_a_formActions :
    elements "a" (pieces (formActions view)) =
      [([("class", "button"), ("id", "cancel-ssh-key"), ("href", view.keysUrl)],
        pieces [.text "Cancel"])] := by
  have container : "a" ∉ voidTags := by decide
  have reads := collects_elements container
  have link : Nested
      (textElement "a" [("class", "button"), ("id", "cancel-ssh-key"), ("href", view.keysUrl)]
        "Cancel") := .textElement (by decide) _
  have button : Nested
      (textElement "button" [("type", "submit"), ("class", "button primary")] "Save") :=
    .textElement (by decide) _
  have parts : Nested (lines 4 [_, _]) := .line link (.line button .noLines)
  rw [formActions, elements_element_of_ne container (by decide) (parts.append (.newline .nil 2)),
    reads.append_newline parts, reads.line link, elements_textElement_self container,
    reads.line button, elements_textElement_of_ne container (by decide)]
  rfl

theorem elements_a_keyForm :
    elements "a" (pieces (keyForm view)) = elements "a" (pieces (formActions view)) := by
  have container : "a" ∉ voidTags := by decide
  have reads := collects_elements container
  have fields := (nested_nameFields view).append (nested_textFields view)
  have noName : elements "a" (pieces (nameFields view)) = [] :=
    elements_eq_nil container (nested_nameFields view)
      (by simp [nameFields, nameInput, mem_closings_fieldError])
  have noError : elements "a" (pieces (fieldError view.textError)) = [] :=
    elements_eq_nil container (nested_fieldError view.textError)
      (by simp [mem_closings_fieldError])
  rw [keyForm, elements_element_of_ne container (by decide) (nested_formFields view), formFields,
    reads.append_newline fields, reads.append (nested_nameFields view), noName, textFields,
    reads.line (nested_textInput view), textInput, elements_textElement_of_ne container (by decide),
    reads.line (nested_fieldError view.textError), noError, reads.line (nested_formActions view)]
  simp [reads.noLines]

/-! ## The form -/

theorem elements_form_keyForm :
    elements "form" (pieces (keyForm view)) =
      [([("class", "ssh-key-form"), ("method", "post"), ("action", view.addUrl)],
        pieces (formFields view))] :=
  elements_element_self (by decide) (nested_formFields view)
    (by simp [formFields, nameFields, nameInput, textFields, textInput, formActions,
      mem_closings_fieldError])

theorem elements_form_keyModal :
    elements "form" (pieces (keyModal view)) =
      [([("class", "ssh-key-form"), ("method", "post"), ("action", view.addUrl)],
        pieces (formFields view))] := by
  have container : "form" ∉ voidTags := by decide
  have noHeader : elements "form" (pieces (modalHeader view)) = [] :=
    elements_eq_nil container (nested_modalHeader view) (by simp [modalHeader])
  rw [elements_keyModal view container (by decide), noHeader, elements_form_keyForm]
  rfl

end AccountPanel.Page
