import AccountPanel.Page.Content
import AccountPanel.Proofs.Page.Elements
import AccountPanel.Proofs.Page.Form

/-!
# The table of the keys, read back

The rows that a reader finds in the table are those of the keys in their order, each with the key
it shows and with the form that deletes it; the row of an empty table is there if there are none.
-/

namespace AccountPanel.Page

open Markup Piece

variable (view : View)

/-! ## One row -/

/-- The form that deletes a key, as a reader finds it. -/
def deleteForm (deleteUrl : String) (key : Key) : Form :=
  ⟨deleteUrl, [("name", key.name), ("key", key.text)]⟩

/-- The row of a key, as a reader finds it. -/
def rowOf (deleteUrl : String) (key : Key) : Row := ⟨key, [deleteForm deleteUrl key]⟩

theorem fieldsAmong_deleteFields (key : Key) :
    Form.fieldsAmong (pieces (deleteFields key)) = [("name", key.name), ("key", key.text)] := by
  have reads := Form.collects_fieldsAmong
  have input : ∀ name value, Nested (hiddenInput name value) := fun _ _ =>
    .void (by decide) .nil
  have button : Nested
      (textElement "button" [("type", "submit"), ("class", "button danger")] "Delete") :=
    .textElement (by decide) _
  rw [deleteFields,
    reads.append_newline (.line (input _ _) (.line (input _ _) (.line button .noLines))),
    reads.line (input _ _), reads.line (input _ _), reads.line button,
    Form.fieldsAmong_textElement (by decide) (by decide)]
  rfl

variable (deleteUrl : String) (key : Key)

theorem elements_rowCells {tag : String} (container : tag ∉ voidTags) :
    elements tag (pieces (rowCells deleteUrl key)) =
      elements tag (pieces (textElement "td" [("class", "ssh-key-name")] key.name)) ++
        elements tag
          (pieces (element "td" [("class", "ssh-key-value")] (textElement "code" [] key.text))) ++
        elements tag (pieces (element "td" [] (formCell deleteUrl key))) := by
  have reads := collects_elements container
  have name : Nested (textElement "td" [("class", "ssh-key-name")] key.name) :=
    .textElement (by decide) _
  have value : Nested
      (element "td" [("class", "ssh-key-value")] (textElement "code" [] key.text)) :=
    .element (by decide) (.textElement (by decide) _)
  have form : Nested (element "td" [] (formCell deleteUrl key)) :=
    .element (by decide) (nested_formCell deleteUrl key)
  rw [rowCells, reads.append_newline (.line name (.line value (.line form .noLines))),
    reads.line name, reads.line value, reads.line form, reads.noLines, List.append_nil,
    List.append_assoc]

theorem closings_formCell : closings (formCell deleteUrl key) = ["button", "form"] := by
  simp [formCell, deleteFields, hiddenInput]

/-- The cells of a row, the first two with their classes. -/
theorem elements_td_rowCells :
    elements "td" (pieces (rowCells deleteUrl key)) =
      [([("class", "ssh-key-name")], pieces [.text key.name]),
        ([("class", "ssh-key-value")], pieces (textElement "code" [] key.text)),
        ([], pieces (formCell deleteUrl key))] := by
  have container : "td" ∉ voidTags := by decide
  rw [elements_rowCells deleteUrl key container, elements_textElement_self container,
    elements_element_self container (.textElement (by decide) _) (by simp),
    elements_element_self container (nested_formCell deleteUrl key) (by simp [closings_formCell])]
  rfl

theorem elements_code_rowCells :
    elements "code" (pieces (rowCells deleteUrl key)) = [([], pieces [.text key.text])] := by
  have container : "code" ∉ voidTags := by decide
  rw [elements_rowCells deleteUrl key container, elements_textElement_of_ne container (by decide),
    elements_element_of_ne container (by decide) (.textElement (by decide) _),
    elements_textElement_self container,
    elements_element_of_ne container (by decide) (nested_formCell deleteUrl key),
    elements_eq_nil container (nested_formCell deleteUrl key) (by simp [closings_formCell])]
  rfl

theorem elements_form_rowCells :
    elements "form" (pieces (rowCells deleteUrl key)) =
      [([("method", "post"), ("action", deleteUrl)], pieces (deleteFields key))] := by
  have container : "form" ∉ voidTags := by decide
  have reads := collects_elements container
  have form : Nested
      (element "form" [("method", "post"), ("action", deleteUrl)] (deleteFields key)) :=
    .element (by decide) (nested_deleteFields key)
  have inCell : elements "form" (pieces (formCell deleteUrl key)) =
      [([("method", "post"), ("action", deleteUrl)], pieces (deleteFields key))] := by
    rw [formCell, reads.append_newline (.line form .noLines), reads.line form, reads.noLines,
      List.append_nil,
      elements_element_self container (nested_deleteFields key)
        (by simp [deleteFields, hiddenInput])]
  rw [elements_rowCells deleteUrl key container, elements_textElement_of_ne container (by decide),
    elements_element_of_ne container (by decide) (.textElement (by decide) _),
    elements_textElement_of_ne container (by decide),
    elements_element_of_ne container (by decide) (nested_formCell deleteUrl key), inCell]
  rfl

/-- The one form of a row deletes its key. -/
theorem among_rowCells :
    Form.among (pieces (rowCells deleteUrl key)) = [deleteForm deleteUrl key] := by
  rw [Form.among, elements_form_rowCells]
  simp only [List.map_cons, List.map_nil, fieldsAmong_deleteFields]
  rfl

/-- The content of a row reads as the key that it shows, with its form. -/
theorem read_rowCells :
    (⟨⟨String.join ((classed "td" "ssh-key-name" (pieces (rowCells deleteUrl key))).map text),
      Reading.textOf "code" (pieces (rowCells deleteUrl key))⟩,
      Form.among (pieces (rowCells deleteUrl key))⟩ : Row) = rowOf deleteUrl key := by
  have named : classed "td" "ssh-key-name" (pieces (rowCells deleteUrl key)) =
      [pieces [.text key.name]] := by
    rw [classed, elements_td_rowCells]
    rfl
  have valued : Reading.textOf "code" (pieces (rowCells deleteUrl key)) = key.text := by
    rw [Reading.textOf, Reading.contentOf, elements_code_rowCells]
    exact text_pieces_text key.text
  rw [named, valued, among_rowCells, List.map_singleton, text_pieces_text]
  simp [rowOf]

/-! ## The whole table -/

theorem elements_emptyPlace {tag : String} (container : tag ∉ voidTags) :
    elements tag
        (pieces (if view.keys.isEmpty then newline 4 :: emptyRow ++ [newline 4] else [])) =
      if view.keys.isEmpty then elements tag (pieces emptyRow) else [] := by
  have reads := collects_elements container
  split
  · rw [reads.append_newline (nested_emptyRow.newline 4), reads.newline_cons]
  · rfl

theorem elements_keyRows {tag : String} (container : tag ∉ voidTags) :
    elements tag
        (pieces (view.keys.flatMap fun key =>
          newline 4 :: keyRow view.deleteUrl key ++ [newline 4])) =
      view.keys.flatMap fun key => elements tag (pieces (keyRow view.deleteUrl key)) := by
  have reads := collects_elements container
  have nested := fun key (_ : key ∈ view.keys) =>
    ((nested_keyRow view.deleteUrl key).newline 4).append (.newline .nil 4)
  rw [reads.flatMap nested]
  congr
  funext key
  rw [reads.append_newline ((nested_keyRow view.deleteUrl key).newline 4), reads.newline_cons]

theorem elements_tableRows {tag : String} (container : tag ∉ voidTags) :
    elements tag (pieces (tableRows view)) =
      (view.keys.flatMap fun key => elements tag (pieces (keyRow view.deleteUrl key))) ++
        if view.keys.isEmpty then elements tag (pieces emptyRow) else [] := by
  have reads := collects_elements container
  have start : Nested [newline 4] := .newline .nil 4
  have rows := start.append (nested_keyRows view)
  have places := (rows.append start).append (nested_emptyPlace view)
  rw [tableRows, reads.append_newline places, reads.append (rows.append start),
    reads.append_newline rows, reads.append start, reads.newline_cons,
    elements_keyRows view container, elements_emptyPlace view container]
  rfl

theorem elements_keyTable {tag : String} (container : tag ∉ voidTags) (notTable : "table" ≠ tag)
    (notBody : "tbody" ≠ tag) :
    elements tag (pieces (keyTable view)) =
      elements tag (pieces tableHead) ++
        ((view.keys.flatMap fun key => elements tag (pieces (keyRow view.deleteUrl key))) ++
          if view.keys.isEmpty then elements tag (pieces emptyRow) else []) := by
  have reads := collects_elements container
  have body : Nested (element "tbody" [] (tableRows view)) :=
    .element (by decide) (nested_tableRows view)
  have parts : Nested (lines 2 [tableHead, element "tbody" [] (tableRows view)]) :=
    .line nested_tableHead (.line body .noLines)
  rw [keyTable, elements_element_of_ne container notTable (parts.append (.newline .nil 0)),
    reads.append_newline parts, reads.line nested_tableHead, reads.line body, reads.noLines,
    List.append_nil, elements_element_of_ne container notBody (nested_tableRows view),
    elements_tableRows view container]

theorem elements_tr_tableHead : elements "tr" (pieces tableHead) = [([], pieces headings)] := by
  have container : "tr" ∉ voidTags := by decide
  have reads := collects_elements container
  have row : Nested (element "tr" [] headings) := .element (by decide) nested_headings
  have parts : Nested (lines 4 [element "tr" [] headings]) := .line row .noLines
  rw [tableHead, elements_element_of_ne container (by decide) (parts.append (.newline .nil 2)),
    reads.append_newline parts, reads.line row, reads.noLines, List.append_nil,
    elements_element_self container nested_headings (by simp [headings])]

/-- The row of the headings, the rows of the keys, and the row of an empty table. -/
theorem elements_tr_keyTable :
    elements "tr" (pieces (keyTable view)) =
      ([], pieces headings) ::
        ((view.keys.map fun key =>
          ([("class", "ssh-key-row")], pieces (rowCells view.deleteUrl key))) ++
          if view.keys.isEmpty then [([("class", "empty")], pieces emptyCells)] else []) := by
  have container : "tr" ∉ voidTags := by decide
  have row : ∀ key, elements "tr" (pieces (keyRow view.deleteUrl key)) =
      [([("class", "ssh-key-row")], pieces (rowCells view.deleteUrl key))] := fun key =>
    elements_element_self container (nested_rowCells view.deleteUrl key)
      (by simp [closings_rowCells])
  have empty : elements "tr" (pieces emptyRow) = [([("class", "empty")], pieces emptyCells)] :=
    elements_element_self container nested_emptyCells (by simp [emptyCells])
  rw [elements_keyTable view container (by decide) (by decide), elements_tr_tableHead, empty]
  simp only [row, List.map_eq_flatMap, List.singleton_append]

theorem classed_keyRow_keyTable :
    classed "tr" "ssh-key-row" (pieces (keyTable view)) =
      view.keys.map fun key => pieces (rowCells view.deleteUrl key) := by
  rw [classed, elements_tr_keyTable, List.filterMap_cons_none (by rfl), List.filterMap_append,
    List.filterMap_map]
  cases view.keys with
  | nil => rfl
  | cons key keys => exact (List.append_nil _).trans (congrFun List.filterMap_eq_map _)

theorem classed_emptyRow_keyTable :
    classed "tr" "empty" (pieces (keyTable view)) =
      if view.keys = [] then [pieces emptyCells] else [] := by
  rw [classed, elements_tr_keyTable, List.filterMap_cons_none (by rfl), List.filterMap_append,
    List.filterMap_map]
  cases view.keys <;> simp

theorem textOf_emptyCells : Reading.textOf "td" (pieces emptyCells) = "No SSH keys" := by
  have container : "td" ∉ voidTags := by decide
  have reads := collects_elements container
  have cell : Nested (textElement "td" [("colspan", "3")] "No SSH keys") :=
    .textElement (by decide) _
  rw [Reading.textOf, Reading.contentOf, emptyCells, reads.append_newline (.line cell .noLines),
    reads.line cell, elements_textElement_self container]
  exact text_pieces_text "No SSH keys"

/-- The table holds the forms of its rows and no other. -/
theorem elements_form_keyTable :
    elements "form" (pieces (keyTable view)) =
      view.keys.map fun key =>
        ([("method", "post"), ("action", view.deleteUrl)], pieces (deleteFields key)) := by
  have container : "form" ∉ voidTags := by decide
  have row : ∀ key, elements "form" (pieces (keyRow view.deleteUrl key)) =
      [([("method", "post"), ("action", view.deleteUrl)], pieces (deleteFields key))] := by
    intro key
    rw [keyRow, elements_element_of_ne container (by decide) (nested_rowCells view.deleteUrl key),
      elements_form_rowCells]
  have noHead : elements "form" (pieces tableHead) = [] :=
    elements_eq_nil container nested_tableHead (by simp [closings_tableHead])
  have noEmpty : elements "form" (pieces emptyRow) = [] :=
    elements_eq_nil container nested_emptyRow (by simp [emptyRow, emptyCells])
  rw [elements_keyTable view container (by decide) (by decide), noHead, noEmpty]
  simp only [row, List.map_eq_flatMap, ite_self, List.append_nil, List.nil_append]

theorem elements_keyTable_eq_nil {tag : String} (container : tag ∉ voidTags)
    (absent : tag ∉ ["th", "tr", "thead", "td", "code", "button", "form", "tbody", "table"]) :
    elements tag (pieces (keyTable view)) = [] := by
  have noRow : ∀ key, elements tag (pieces (keyRow view.deleteUrl key)) = [] := by
    intro key
    apply elements_eq_nil container (nested_keyRow view.deleteUrl key)
    rw [keyRow, closings_element, closings_rowCells]
    simp_all
  have noHead : elements tag (pieces tableHead) = [] := by
    apply elements_eq_nil container nested_tableHead
    rw [closings_tableHead]
    simp_all
  have noEmpty : elements tag (pieces emptyRow) = [] := by
    apply elements_eq_nil container nested_emptyRow
    simp_all [emptyRow, emptyCells]
  have notTable : "table" ≠ tag := ne_of_mem_of_not_mem (by simp) absent
  have notBody : "tbody" ≠ tag := ne_of_mem_of_not_mem (by simp) absent
  rw [elements_keyTable view container notTable notBody, noHead, noEmpty]
  simp [noRow]

end AccountPanel.Page
