import AccountPanel.Proofs.Page.Modal
import AccountPanel.Proofs.Page.Table

/-!
# The content of a page, read back

What a reader finds in the written page of a panel: its messages, the label of the chosen tab and
the pane of that tab, each as the panel holds it. The texts of a page are any texts, and none of
them is taken for a part of the page.
-/

namespace AccountPanel.Page

open Markup Piece

variable (view : View)

/-! ## Where the parts stand -/

/-- The tags that stand above the pane of the chosen tab. -/
def upperTags : List String := ["li", "ul", "strong", "p", "a", "nav"]

/-- A tag that stands neither in the frame of a page nor above the pane is found in the pane. -/
theorem elements_tokens_of_pane (tag : String) (container : tag ∉ voidTags)
    (outside : tag ∉ frameTags) (below : tag ∉ upperTags) :
    elements tag (pieces (tokens view)) = elements tag (pieces (chosenPane view)) := by
  simp only [upperTags, List.mem_cons, List.not_mem_nil, or_false, not_or] at below
  have noFlash : elements tag (pieces (flashList view.flashes)) = [] := by
    apply elements_eq_nil container (nested_flashList view.flashes)
    rw [mem_closings_flashList]
    intro closed
    rcases closed with ⟨-, rfl | rfl⟩
    · exact below.1 rfl
    · exact below.2.1 rfl
  have noSummary : elements tag (pieces (summary view)) = [] := by
    apply elements_eq_nil container (nested_summary view)
    have notDiv : "div" ≠ tag := ne_of_mem_of_not_mem (by decide) outside
    simp [closings_summary, below, notDiv.symm]
  have noTab : elements tag (pieces (tabBar view)) = [] := by
    apply elements_eq_nil container (nested_tabBar view)
    simp [closings_tabBar, below]
  rw [elements_tokens view container outside, noFlash, noSummary, noTab]
  rfl

theorem chosenPane_info (chosen : view.activeTab = .info) : chosenPane view = infoPane view := by
  rw [chosenPane, chosen]

theorem chosenPane_keys (chosen : view.activeTab = .keys) : chosenPane view = keysPane view := by
  rw [chosenPane, chosen]

/-! ## The messages above the panel -/

theorem elements_li_flashList (messages : List String) :
    elements "li" (pieces (flashList messages)) =
      messages.map fun message => ([], pieces [.text message]) := by
  have container : "li" ∉ voidTags := by decide
  have reads := collects_elements container
  cases messages with
  | nil => rfl
  | cons message messages =>
      have item : ∀ message, Nested (newline 6 :: textElement "li" [] message) := fun message =>
        (Nested.textElement (by decide) message).newline 6
      have found : ∀ message,
          elements "li" (pieces (newline 6 :: textElement "li" [] message ++ [newline 6])) =
            [([], pieces [.text message])] := by
        intro message
        rw [reads.append_newline (item message), reads.newline_cons,
          elements_textElement_self container]
      have each : ∀ other ∈ message :: messages,
          Nested (newline 6 :: textElement "li" [] other ++ [newline 6]) := fun other _ =>
        (item other).append (.newline .nil 6)
      have start : Nested [newline 6] := .newline .nil 6
      have items := start.append (.flatMap each)
      have content := items.append (.newline .nil 4)
      rw [flashList, if_neg (by simp),
        reads.append_newline ((Nested.element (by decide) content).newline 4), reads.newline_cons,
        elements_element_of_ne container (by decide) content, reads.append_newline items,
        reads.append start, reads.flatMap each]
      simp only [found, List.map_eq_flatMap]
      rfl

theorem elements_li_chosenPane : elements "li" (pieces (chosenPane view)) = [] := by
  have container : "li" ∉ voidTags := by decide
  cases chosen : view.activeTab with
  | info =>
      rw [chosenPane_info view chosen]
      exact elements_eq_nil container (nested_infoPane view) (by simp [closings_infoPane])
  | keys =>
      have noLink : elements "li" (pieces (addLink view)) = [] :=
        elements_eq_nil container (nested_addLink view) (by simp [closings_addLink])
      have noModal : elements "li" (pieces (keyModal view)) = [] :=
        elements_eq_nil container (nested_keyModal view) (by simp [mem_closings_keyModal])
      rw [chosenPane_keys view chosen, elements_keysPane view container (by decide),
        elements_keyTable_eq_nil view container (by decide), noLink, noModal]
      simp

/-- The messages are read in their order. -/
theorem flashes_tokens : Reading.flashes (pieces (tokens view)) = view.flashes := by
  have container : "li" ∉ voidTags := by decide
  have noSummary : elements "li" (pieces (summary view)) = [] :=
    elements_eq_nil container (nested_summary view) (by simp [closings_summary])
  have noTab : elements "li" (pieces (tabBar view)) = [] :=
    elements_eq_nil container (nested_tabBar view) (by simp [closings_tabBar])
  rw [Reading.flashes, elements_tokens view container (by decide), elements_li_flashList, noSummary,
    noTab, elements_li_chosenPane]
  simp only [List.append_nil, List.map_map, Function.comp_def, text_pieces_text, List.map_id']

/-! ## The chosen tab -/

theorem elements_a_tabBar :
    elements "a" (pieces (tabBar view)) =
      [([("role", "tab"), ("href", view.infoUrl),
          ("class", if view.activeTab = .info then "tab active" else "tab"),
          ("aria-selected", if view.activeTab = .info then "true" else "false")],
          pieces [.text "Info"]),
        ([("role", "tab"), ("href", view.keysUrl),
          ("class", if view.activeTab = .keys then "tab active" else "tab"),
          ("aria-selected", if view.activeTab = .keys then "true" else "false")],
          pieces [.text "SSH Keys"])] := by
  have container : "a" ∉ voidTags := by decide
  have reads := collects_elements container
  have link : ∀ url label active, Nested (tabLink url label active) := fun _ _ _ =>
    .textElement (by decide) _
  have parts : Nested
      (lines 6 [tabLink view.infoUrl "Info" (view.activeTab = .info),
        tabLink view.keysUrl "SSH Keys" (view.activeTab = .keys)]) :=
    .line (link _ _ _) (.line (link _ _ _) .noLines)
  rw [tabBar, elements_element_of_ne container (by decide) (parts.append (.newline .nil 4)),
    reads.append_newline parts, reads.line (link _ _ _), reads.line (link _ _ _), tabLink, tabLink,
    elements_textElement_self container, elements_textElement_self container]
  simp [reads.noLines]

/-- No link in a pane looks like the link of the chosen tab. -/
theorem classed_tab_chosenPane :
    classed "a" "tab active" (pieces (chosenPane view)) = [] := by
  have container : "a" ∉ voidTags := by decide
  cases chosen : view.activeTab with
  | info =>
      have nothing : elements "a" (pieces (infoPane view)) = [] :=
        elements_eq_nil container (nested_infoPane view) (by simp [closings_infoPane])
      rw [chosenPane_info view chosen, classed, nothing]
      rfl
  | keys =>
      rw [chosenPane_keys view chosen, classed, elements_keysPane view container (by decide),
        elements_keyTable_eq_nil view container (by decide), addLink,
        elements_textElement_self container, elements_keyModal view container (by decide),
        elements_a_modalHeader, elements_a_keyForm, elements_a_formActions]
      split <;> simp

/-- The label of a tab. -/
def tabLabel : Tab → String
  | .info => "Info"
  | .keys => "SSH Keys"

/-- The label of the chosen tab is read. -/
theorem chosenLabel_tokens :
    Reading.chosenLabel (pieces (tokens view)) = tabLabel view.activeTab := by
  have container : "a" ∉ voidTags := by decide
  have noFlash : elements "a" (pieces (flashList view.flashes)) = [] :=
    elements_eq_nil container (nested_flashList view.flashes) (by simp [mem_closings_flashList])
  have noSummary : elements "a" (pieces (summary view)) = [] :=
    elements_eq_nil container (nested_summary view) (by simp [closings_summary])
  have inPane := classed_tab_chosenPane view
  rw [classed] at inPane
  rw [Reading.chosenLabel, classed, elements_tokens view container (by decide), noFlash, noSummary,
    List.nil_append, List.nil_append, List.filterMap_append, inPane, elements_a_tabBar]
  cases chosen : view.activeTab <;> simp [List.lookup_cons, text, Token.pieces, tabLabel]

/-! ## The pane of the keys -/

theorem elements_tr_chosenPane :
    elements "tr" (pieces (chosenPane view)) =
      if view.activeTab = .keys then elements "tr" (pieces (keyTable view)) else [] := by
  have container : "tr" ∉ voidTags := by decide
  cases chosen : view.activeTab with
  | info =>
      rw [chosenPane_info view chosen]
      exact elements_eq_nil container (nested_infoPane view) (by simp [closings_infoPane])
  | keys =>
      have noLink : elements "tr" (pieces (addLink view)) = [] :=
        elements_eq_nil container (nested_addLink view) (by simp [closings_addLink])
      have noModal : elements "tr" (pieces (keyModal view)) = [] :=
        elements_eq_nil container (nested_keyModal view) (by simp [mem_closings_keyModal])
      rw [chosenPane_keys view chosen, elements_keysPane view container (by decide), noLink,
        noModal]
      simp

/-- On the tab of the keys the rows are those of the keys in their order. -/
theorem rows_tokens :
    Reading.rows (pieces (tokens view)) =
      if view.activeTab = .keys then view.keys.map (rowOf view.deleteUrl) else [] := by
  have inPane := elements_tokens_of_pane view "tr" (by decide) (by decide) (by decide)
  rw [Reading.rows, classed, inPane, elements_tr_chosenPane]
  split
  · have table := classed_keyRow_keyTable view
    rw [classed] at table
    rw [table, List.map_map]
    apply List.map_congr_left
    intro key _
    exact read_rowCells view.deleteUrl key
  · rfl

/-- The table says that there are no keys if there are none. -/
theorem emptyNotes_tokens :
    Reading.emptyNotes (pieces (tokens view)) =
      if view.activeTab = .keys ∧ view.keys = [] then ["No SSH keys"] else [] := by
  have inPane := elements_tokens_of_pane view "tr" (by decide) (by decide) (by decide)
  rw [Reading.emptyNotes, classed, inPane, elements_tr_chosenPane]
  by_cases chosen : view.activeTab = .keys
  · have table := classed_emptyRow_keyTable view
    rw [classed] at table
    rw [if_pos chosen, table]
    by_cases empty : view.keys = []
    · rw [if_pos empty, if_pos ⟨chosen, empty⟩, List.map_singleton, textOf_emptyCells]
    · rw [if_neg empty, if_neg fun both => empty both.2]
      rfl
  · rw [if_neg chosen, if_neg fun both => chosen both.1]
    rfl

theorem elements_form_chosenPane :
    elements "form" (pieces (chosenPane view)) =
      if view.activeTab = .keys then
        elements "form" (pieces (keyTable view)) ++
          if view.modal.isSome then elements "form" (pieces (keyModal view)) else []
      else [] := by
  have container : "form" ∉ voidTags := by decide
  cases chosen : view.activeTab with
  | info =>
      rw [chosenPane_info view chosen]
      exact elements_eq_nil container (nested_infoPane view) (by simp [closings_infoPane])
  | keys =>
      have noLink : elements "form" (pieces (addLink view)) = [] :=
        elements_eq_nil container (nested_addLink view) (by simp [closings_addLink])
      rw [chosenPane_keys view chosen, elements_keysPane view container (by decide), noLink,
        List.append_nil]
      simp

/-- The form for a new key, as a reader finds it. -/
def draftForm (addUrl : String) (draft : Draft) : Form :=
  ⟨addUrl, [("name", draft.name), ("key", draft.text)]⟩

/-- The forms of a page: on the tab of the keys one for each row, and that of an open modal. -/
theorem among_tokens :
    Form.among (pieces (tokens view)) =
      if view.activeTab = .keys then
        view.keys.map (deleteForm view.deleteUrl) ++
          (view.modal.map fun modal => draftForm view.addUrl modal.draft).toList
      else [] := by
  have inPane := elements_tokens_of_pane view "form" (by decide) (by decide) (by decide)
  have row : ∀ key, Form.mk view.deleteUrl (Form.fieldsAmong (pieces (deleteFields key))) =
      deleteForm view.deleteUrl key := by
    intro key
    rw [fieldsAmong_deleteFields, deleteForm]
  rw [Form.among, inPane, elements_form_chosenPane, elements_form_keyTable, elements_form_keyModal]
  cases view.activeTab with
  | info => rfl
  | keys =>
      cases opened : view.modal with
      | none => simp [Form.attributeValue, List.lookup_cons, row]
      | some modal =>
          have form : view.form = modal := by
            rw [View.form, opened]
            rfl
          simp [Form.attributeValue, List.lookup_cons, row, fieldsAmong_formFields, form, draftForm]

/-- The form of the modal is found among the forms of the rows. -/
theorem classed_keyForm_tokens :
    classed "form" "ssh-key-form" (pieces (tokens view)) =
      if view.activeTab = .keys ∧ view.modal.isSome then [pieces (formFields view)] else [] := by
  have inPane := elements_tokens_of_pane view "form" (by decide) (by decide) (by decide)
  rw [classed, inPane, elements_form_chosenPane, elements_form_keyTable, elements_form_keyModal]
  cases view.activeTab with
  | info => rfl
  | keys => cases view.modal <;> simp [List.lookup_cons]

/-- An open modal is read with its form, and a closed one is not found. -/
theorem modalForm?_tokens :
    Reading.modalForm? (pieces (tokens view)) =
      if view.activeTab = .keys then view.modal.map .ofModal else none := by
  rw [Reading.modalForm?, classed_keyForm_tokens]
  cases view.activeTab with
  | info => rfl
  | keys =>
      cases opened : view.modal with
      | none => rfl
      | some modal =>
          have form : view.form = modal := by
            rw [View.form, opened]
            rfl
          simp only [Option.isSome_some, and_self, if_true, List.head?_cons, Option.map_some,
            fieldsAmong_formFields, fieldErrors_formFields, ShownForm.ofModal, View.nameError,
            View.textError, form]
          rfl

/-- On the tab of the keys the pane is read with its keys and its form. -/
theorem pane_tokens (chosen : view.activeTab = .keys) :
    Reading.pane (pieces (tokens view)) = .keys view.keys (view.modal.map .ofModal) := by
  have keys : (view.keys.map (rowOf view.deleteUrl)).map (·.key) = view.keys := by
    rw [List.map_map]
    exact List.map_id view.keys
  rw [Reading.pane, chosenLabel_tokens, chosen, if_neg (by decide), rows_tokens, if_pos chosen,
    keys, modalForm?_tokens, if_pos chosen]

/-! ## The page of a panel -/

variable (panel : Panel)

theorem chosenLabel_render :
    Reading.chosenLabel (read panel.render) = tabLabel panel.activeTab := by
  rw [read_render, chosenLabel_tokens]
  rfl

theorem rows_render (chosen : panel.activeTab = .keys) :
    Reading.rows (read panel.render) = panel.keys.map (rowOf panel.deleteUrl) := by
  rw [read_render, rows_tokens]
  exact if_pos chosen

theorem emptyNotes_render (chosen : panel.activeTab = .keys) :
    Reading.emptyNotes (read panel.render) = if panel.keys = [] then ["No SSH keys"] else [] := by
  rw [read_render, emptyNotes_tokens]
  by_cases empty : panel.keys = []
  · rw [if_pos empty, if_pos ⟨chosen, empty⟩]
  · rw [if_neg empty, if_neg fun both => empty both.2]

theorem flashes_read (page : String) :
    (Content.read page).flashes = Reading.flashes (Markup.read page) := rfl

theorem pane_read (page : String) :
    (Content.read page).pane = Reading.pane (Markup.read page) := rfl

theorem flashes_read_render : (Content.read panel.render).flashes = panel.flashes := by
  rw [flashes_read, read_render, flashes_tokens]
  rfl

theorem pane_read_render (chosen : panel.activeTab = .keys) :
    (Content.read panel.render).pane = .keys panel.keys (panel.modal.map .ofModal) := by
  rw [pane_read, read_render, pane_tokens panel.view chosen]
  rfl

end AccountPanel.Page
