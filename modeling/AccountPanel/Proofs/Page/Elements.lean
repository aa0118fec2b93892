import AccountPanel.Proofs.Page.Layout

/-!
# The elements of a page

Where the elements of a page stand that a reader looks for. The elements around the messages, the
summary, the row of tabs and the pane hold nothing else, so a tag is looked up part by part.
-/

namespace AccountPanel.Page

open Markup Piece

variable (view : View) {tag : String}

/-- The tags of the elements around the parts of a page. -/
def frameTags : List String := ["html", "head", "title", "body", "main", "section", "div"]

/-! ## The tags of the parts -/

theorem mem_closings_flashList {messages : List String} :
    tag ∈ closings (flashList messages) ↔ messages ≠ [] ∧ (tag = "li" ∨ tag = "ul") := by
  cases messages with
  | nil => simp [flashList]
  | cons message messages =>
      simp only [flashList, List.isEmpty_cons, Bool.false_eq_true, if_false, closings_append,
        closings_newline_cons, closings_element, closings_flatMap, List.cons_append,
        closings_textElement, closings_nil, List.mem_append, List.mem_flatMap, List.mem_cons,
        List.not_mem_nil]
      grind

theorem closings_summary : closings (summary view) = ["strong", "p", "div"] := by
  simp [summary]

theorem closings_tabBar : closings (tabBar view) = ["a", "a", "nav"] := by
  simp [tabBar, tabLink]

theorem closings_infoPane :
    closings (infoPane view) = ["dt", "dd", "dt", "dd", "dt", "dd", "dt", "dd", "dl", "div"] := by
  simp [infoPane, pane, profileList]

theorem closings_addLink : closings (addLink view) = ["a"] := by
  simp [addLink]

theorem closings_rowCells (deleteUrl : String) (key : Key) :
    closings (rowCells deleteUrl key) = ["td", "code", "td", "button", "form", "td"] := by
  simp [rowCells, formCell, deleteFields, hiddenInput]

theorem closings_tableHead : closings tableHead = ["th", "th", "th", "tr", "thead"] := by
  simp [tableHead, headings]

theorem mem_closings_fieldError {message : String} :
    tag ∈ closings (fieldError message) ↔ message ≠ "" ∧ tag = "p" := by
  rw [fieldError]
  split <;> simp_all

theorem mem_closings_keyModal :
    tag ∈ closings (keyModal view) ↔
      tag ∈ ["h2", "a", "header", "label", "textarea", "button", "div", "form"] ∨
        (view.nameError ≠ "" ∨ view.textError ≠ "") ∧ tag = "p" := by
  simp only [keyModal, modalHeader, keyForm, formFields, nameFields, nameInput, textFields,
    textInput, formActions, closings_element, closings_append, closings_lines, closings_textElement,
    List.mem_append, List.mem_flatMap, List.mem_cons, List.not_mem_nil, or_false, exists_eq_or_imp,
    exists_eq_left, mem_closings_fieldError, closings_opening_cons, closings_newline_cons,
    closings_nil, closings_reference_cons]
  grind

/-! ## The parts of a page -/

/-- The pane of the chosen tab. -/
def chosenPane : List Token :=
  match view.activeTab with
  | .info => infoPane view
  | .keys => keysPane view

theorem elements_pane {content : List Token} (container : tag ∉ voidTags)
    (outside : tag ∉ frameTags) (id : String) (nested : Nested content) :
    elements tag (pieces (pane id content)) = elements tag (pieces content) := by
  have reads := collects_elements container
  have notDiv : "div" ≠ tag := ne_of_mem_of_not_mem (by decide) outside
  rw [pane, reads.append_newline ((Nested.element (by decide) nested).newline 4),
    reads.newline_cons, elements_element_of_ne container notDiv nested]

theorem elements_places (tag : String) :
    elements tag (pieces (if view.activeTab = .info then infoPane view else [])) ++
        elements tag (pieces (if view.activeTab = .keys then keysPane view else [])) =
      elements tag (pieces (chosenPane view)) := by
  rw [chosenPane]
  cases view.activeTab <;> simp

theorem elements_tabs (container : tag ∉ voidTags) (outside : tag ∉ frameTags) :
    elements tag (pieces (tabs view)) =
      elements tag (pieces (tabBar view)) ++ elements tag (pieces (chosenPane view)) := by
  have reads := collects_elements container
  have notDiv : "div" ≠ tag := ne_of_mem_of_not_mem (by decide) outside
  have parts : Nested
      (lines 4 [tabBar view, if view.activeTab = .info then infoPane view else [],
        if view.activeTab = .keys then keysPane view else []]) :=
    .line (nested_tabBar view)
      (.line (nested_infoPlace view) (.line (nested_keysPlace view) .noLines))
  rw [tabs, elements_element_of_ne container notDiv (parts.append (.newline .nil 2)),
    reads.append_newline parts, reads.line (nested_tabBar view), reads.line (nested_infoPlace view),
    reads.line (nested_keysPlace view), reads.noLines, List.append_nil, elements_places]

theorem elements_panelSection (container : tag ∉ voidTags) (outside : tag ∉ frameTags) :
    elements tag (pieces (panelSection view)) =
      elements tag (pieces (summary view)) ++ elements tag (pieces (tabBar view)) ++
        elements tag (pieces (chosenPane view)) := by
  have reads := collects_elements container
  have notSection : "section" ≠ tag := ne_of_mem_of_not_mem (by decide) outside
  have parts : Nested (lines 2 [summary view, tabs view]) :=
    .line (nested_summary view) (.line (nested_tabs view) .noLines)
  have content := parts.append (.newline .nil 0)
  rw [panelSection, reads.append_newline ((Nested.element (by decide) content).newline 0),
    reads.newline_cons, elements_element_of_ne container notSection content,
    reads.append_newline parts, reads.line (nested_summary view), reads.line (nested_tabs view),
    reads.noLines, List.append_nil, elements_tabs view container outside, List.append_assoc]

theorem elements_pageHead (container : tag ∉ voidTags) (outside : tag ∉ frameTags) :
    elements tag (pieces (pageHead view)) = [] := by
  apply elements_eq_nil container (nested_pageHead view)
  have closed : closings (pageHead view) = ["title", "head"] := by
    simp [pageHead]
  rw [closed]
  intro member
  simp only [List.mem_cons, List.not_mem_nil, or_false] at member
  rcases member with rfl | rfl <;> exact outside (by decide)

theorem elements_pageMain (container : tag ∉ voidTags) (outside : tag ∉ frameTags) :
    elements tag (pieces (pageMain view)) =
      elements tag (pieces (flashList view.flashes)) ++
        elements tag (pieces (panelSection view)) := by
  have reads := collects_elements container
  have notMain : "main" ≠ tag := ne_of_mem_of_not_mem (by decide) outside
  have parts : Nested (lines 4 [flashList view.flashes, panelSection view]) :=
    .line (nested_flashList view.flashes) (.line (nested_panelSection view) .noLines)
  rw [pageMain, elements_element_of_ne container notMain (parts.append (.newline .nil 2)),
    reads.append_newline parts, reads.line (nested_flashList view.flashes),
    reads.line (nested_panelSection view), reads.noLines, List.append_nil]

theorem elements_pageBody (container : tag ∉ voidTags) (outside : tag ∉ frameTags) :
    elements tag (pieces (pageBody view)) = elements tag (pieces (pageMain view)) := by
  have reads := collects_elements container
  have notBody : "body" ≠ tag := ne_of_mem_of_not_mem (by decide) outside
  have parts : Nested (lines 2 [pageMain view]) := .line (nested_pageMain view) .noLines
  rw [pageBody, elements_element_of_ne container notBody (parts.append (.newline .nil 0)),
    reads.append_newline parts, reads.line (nested_pageMain view), reads.noLines, List.append_nil]

/-- A tag that the frame of a page does not use is found in the parts of the page. -/
theorem elements_tokens (container : tag ∉ voidTags) (outside : tag ∉ frameTags) :
    elements tag (pieces (tokens view)) =
      elements tag (pieces (flashList view.flashes)) ++ elements tag (pieces (summary view)) ++
        elements tag (pieces (tabBar view)) ++ elements tag (pieces (chosenPane view)) := by
  have reads := collects_elements container
  have notHtml : "html" ≠ tag := ne_of_mem_of_not_mem (by decide) outside
  have start : Nested [.doctype, newline 0] := .doctype (.newline .nil 0)
  have nothing : elements tag (pieces [.doctype, newline 0]) = [] :=
    elements_eq_nil container start (by simp [closings, newline])
  have parts : Nested (lines 0 [pageHead view, pageBody view]) :=
    .line (nested_pageHead view) (.line (nested_pageBody view) .noLines)
  rw [tokens, reads.append start, nothing, List.nil_append,
    elements_element_of_ne container notHtml (parts.append (.newline .nil 0)),
    reads.append_newline parts, reads.line (nested_pageHead view),
    reads.line (nested_pageBody view), reads.noLines, List.append_nil,
    elements_pageHead view container outside, List.nil_append,
    elements_pageBody view container outside, elements_pageMain view container outside,
    elements_panelSection view container outside]
  simp only [List.append_assoc]

/-! ## The parts of the pane of the keys -/

theorem elements_keyModal (container : tag ∉ voidTags) (outside : tag ∉ frameTags) :
    elements tag (pieces (keyModal view)) =
      elements tag (pieces (modalHeader view)) ++ elements tag (pieces (keyForm view)) := by
  have reads := collects_elements container
  have notDiv : "div" ≠ tag := ne_of_mem_of_not_mem (by decide) outside
  have parts : Nested (lines 10 [modalHeader view, keyForm view]) :=
    .line (nested_modalHeader view) (.line (nested_keyForm view) .noLines)
  have content := parts.append (.newline .nil 8)
  have dialog : Nested
      (lines 8
        [element "div"
          [("class", "modal"), ("id", "ssh-key-modal"), ("role", "dialog"),
            ("aria-modal", "true"), ("aria-labelledby", "ssh-key-modal-title")]
          (lines 10 [modalHeader view, keyForm view] ++ [newline 8])]) :=
    .line (.element (by decide) content) .noLines
  rw [keyModal, elements_element_of_ne container notDiv (dialog.append (.newline .nil 6)),
    reads.append_newline dialog, reads.line (.element (by decide) content), reads.noLines,
    List.append_nil, elements_element_of_ne container notDiv content, reads.append_newline parts,
    reads.line (nested_modalHeader view), reads.line (nested_keyForm view), reads.noLines,
    List.append_nil]

theorem elements_modalPlace (container : tag ∉ voidTags) :
    elements tag
        (pieces (if view.modal.isSome then newline 6 :: keyModal view ++ [newline 6] else [])) =
      if view.modal.isSome then elements tag (pieces (keyModal view)) else [] := by
  have reads := collects_elements container
  split
  · rw [reads.append_newline ((nested_keyModal view).newline 6), reads.newline_cons]
  · rfl

/-- The pane of the keys holds the table, the link that opens the modal, and the modal. -/
theorem elements_keysPane (container : tag ∉ voidTags) (outside : tag ∉ frameTags) :
    elements tag (pieces (keysPane view)) =
      elements tag (pieces (keyTable view)) ++ elements tag (pieces (addLink view)) ++
        if view.modal.isSome then elements tag (pieces (keyModal view)) else [] := by
  have reads := collects_elements container
  have parts : Nested
      (lines 6 [keyTable view, addLink view,
        if view.modal.isSome then newline 6 :: keyModal view ++ [newline 6] else []]) :=
    .line (nested_keyTable view) (.line (nested_addLink view)
      (.line (nested_modalPlace view) .noLines))
  rw [keysPane, elements_pane container outside "tab-ssh-keys" (parts.append (.newline .nil 4)),
    reads.append_newline parts, reads.line (nested_keyTable view), reads.line (nested_addLink view),
    reads.line (nested_modalPlace view), reads.noLines, List.append_nil,
    elements_modalPlace view container, List.append_assoc]

end AccountPanel.Page
