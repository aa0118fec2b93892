import AccountPanel.Proofs.Markup.Outline
import AccountPanel.Proofs.Page.Layout

/-!
# The outline of a page

The outline of a page depends on the shape of its panel alone: the tab, the numbers of keys and
messages, whether the modal is open and beside which of its fields a message stands. No text that a
page shows adds markup to it, and none begins a reference that its reader would resolve.
-/

namespace AccountPanel

open Markup

/-- Two panels have one shape: texts alone tell them apart. -/
structure Panel.SameShape (panel other : Panel) : Prop where
  activeTab : panel.activeTab = other.activeTab
  modal : panel.modal.isSome = other.modal.isSome
  keys : panel.keys.length = other.keys.length
  flashes : panel.flashes.length = other.flashes.length
  nameError : panel.activeTab = .keys → panel.modal.isSome →
    (panel.view.nameError = "" ↔ other.view.nameError = "")
  textError : panel.activeTab = .keys → panel.modal.isSome →
    (panel.view.textError = "" ↔ other.view.textError = "")

namespace Page

/-! ## Parts without a choice -/

variable (view other : View)

theorem outline_pageHead : outline (pageHead view) = outline (pageHead other) := rfl

theorem outline_summary : outline (summary view) = outline (summary other) := rfl

theorem outline_tabBar : outline (tabBar view) = outline (tabBar other) := rfl

theorem outline_infoPane : outline (infoPane view) = outline (infoPane other) := rfl

theorem outline_addLink : outline (addLink view) = outline (addLink other) := rfl

theorem outline_modalHeader : outline (modalHeader view) = outline (modalHeader other) := rfl

theorem outline_formActions : outline (formActions view) = outline (formActions other) := rfl

theorem outline_keyRow (deleteUrl otherUrl : String) (key otherKey : Key) :
    outline (keyRow deleteUrl key) = outline (keyRow otherUrl otherKey) := rfl

/-! ## Parts that depend on the shape -/

variable {view other}

theorem isEmpty_eq_of_length_eq {α β : Type} {items : List α} {others : List β}
    (number : items.length = others.length) : items.isEmpty = others.isEmpty := by
  cases items <;> cases others <;> first | rfl | cases number

/-- The list of messages has an item for each message, and is left out if there are none. -/
theorem outline_flashList {messages others : List String}
    (number : messages.length = others.length) :
    outline (flashList messages) = outline (flashList others) := by
  have items :
      outline (messages.flatMap fun message =>
          newline 6 :: textElement "li" [] message ++ [newline 6]) =
        outline (others.flatMap fun message =>
          newline 6 :: textElement "li" [] message ++ [newline 6]) :=
    outline_flatMap_eq (fun _ _ => rfl) number
  rw [flashList, flashList, isEmpty_eq_of_length_eq number]
  split
  · rfl
  · simp only [outline_newline_cons, outline_append, outline_element, items]

/-- The table has a row for each key, and one more if there are none. -/
theorem outline_keyTable (number : view.keys.length = other.keys.length) :
    outline (keyTable view) = outline (keyTable other) := by
  have rows :
      outline (view.keys.flatMap fun key =>
          newline 4 :: keyRow view.deleteUrl key ++ [newline 4]) =
        outline (other.keys.flatMap fun key =>
          newline 4 :: keyRow other.deleteUrl key ++ [newline 4]) := by
    apply outline_flatMap_eq _ number
    intro key otherKey
    simp only [outline_newline_cons, outline_append, List.cons_append,
      outline_keyRow view.deleteUrl other.deleteUrl key otherKey]
  simp only [keyTable, tableRows, outline_element, outline_lines, outline_append,
    List.flatMap_cons, rows, isEmpty_eq_of_length_eq number]

/-- A message has its place in the outline if there is one. -/
theorem outline_fieldError {message otherMessage : String}
    (presence : message = "" ↔ otherMessage = "") :
    outline (fieldError message) = outline (fieldError otherMessage) := by
  have empty : message.isEmpty = otherMessage.isEmpty := by
    rw [Bool.eq_iff_iff, String.isEmpty_iff, String.isEmpty_iff, presence]
  rw [fieldError, fieldError, empty]
  split
  · rfl
  · rfl

/-- The modal has one of four outlines, by the messages beside its fields. -/
theorem outline_keyModal (nameError : view.nameError = "" ↔ other.nameError = "")
    (textError : view.textError = "" ↔ other.textError = "") :
    outline (keyModal view) = outline (keyModal other) := by
  have first := outline_fieldError nameError
  have second := outline_fieldError textError
  have name : outline (nameInput view) = outline (nameInput other) := rfl
  have text : outline (textInput view) = outline (textInput other) := rfl
  simp only [keyModal, keyForm, formFields, nameFields, textFields, outline_element, outline_lines,
    outline_append, List.flatMap_cons, first, second, name, text, outline_modalHeader view other,
    outline_formActions view other, List.map_cons]

/-! ## Whole pages -/

variable {panel another : Panel}

theorem outline_modalPlace (same : panel.SameShape another) (chosen : panel.activeTab = .keys) :
    outline (if panel.view.modal.isSome then
        newline 6 :: keyModal panel.view ++ [newline 6] else []) =
      outline (if another.view.modal.isSome then
        newline 6 :: keyModal another.view ++ [newline 6] else []) := by
  have opened : panel.view.modal.isSome = another.view.modal.isSome := same.modal
  cases shown : another.view.modal.isSome with
  | false =>
      rw [opened, shown]
      rfl
  | true =>
      rw [shown] at opened
      have modal := outline_keyModal (same.nameError chosen opened) (same.textError chosen opened)
      rw [opened, if_pos rfl, if_pos rfl]
      simp only [outline_newline_cons, outline_append, modal]

theorem outline_keysPane (same : panel.SameShape another) (chosen : panel.activeTab = .keys) :
    outline (keysPane panel.view) = outline (keysPane another.view) := by
  have table : outline (keyTable panel.view) = outline (keyTable another.view) :=
    outline_keyTable same.keys
  simp only [keysPane, pane, outline_newline_cons, outline_append, outline_element, outline_lines,
    List.flatMap_cons, table, outline_addLink panel.view another.view,
    outline_modalPlace same chosen]

theorem outline_tabs (same : panel.SameShape another) :
    outline (tabs panel.view) = outline (tabs another.view) := by
  have bar := outline_tabBar panel.view another.view
  have first : panel.view.activeTab = panel.activeTab := rfl
  have second : another.view.activeTab = panel.activeTab := same.activeTab.symm
  simp only [tabs, outline_element, outline_append, outline_lines, List.flatMap_cons, bar, first,
    second]
  cases chosen : panel.activeTab with
  | info =>
      have noKeys : Tab.info ≠ .keys := by decide
      simp only [if_neg noKeys, if_true, outline_infoPane panel.view another.view]
  | keys =>
      have noInfo : Tab.keys ≠ .info := by decide
      simp only [if_neg noInfo, if_true, outline_keysPane same chosen]

/-- Pages of one shape have one outline. -/
theorem outline_tokens (same : panel.SameShape another) :
    outline (tokens panel.view) = outline (tokens another.view) := by
  have messages :
      outline (flashList panel.view.flashes) = outline (flashList another.view.flashes) :=
    outline_flashList same.flashes
  simp only [tokens, pageBody, pageMain, panelSection, outline_append, outline_element,
    outline_lines, outline_newline_cons, List.flatMap_cons, messages,
    outline_pageHead panel.view another.view, outline_summary panel.view another.view,
    outline_tabs same]

/-! ## References -/

section References

variable {name : String}

theorem reference_ne_newline (spaces : Nat) : Token.reference name ≠ newline spaces := by
  intro same
  cases same

theorem reference_mem_element {tag : String} {attributes : List (String × String)}
    {content : List Token} :
    .reference name ∈ element tag attributes content ↔ .reference name ∈ content := by
  simp [element]

attribute [local simp] reference_ne_newline reference_mem_element textElement lines

theorem reference_mem_keyModal :
    .reference name ∈ keyModal view ↔ name = "times" := by
  have noError : ∀ message, .reference name ∉ fieldError message := by
    intro message
    rw [fieldError]
    split <;> simp
  simp [keyModal, modalHeader, keyForm, formFields, nameFields, nameInput, textFields, textInput,
    formActions, noError]

theorem reference_mem_keyTable : .reference name ∉ keyTable view := by
  simp [keyTable, tableHead, headings, tableRows, keyRow, rowCells, formCell, deleteFields,
    hiddenInput, emptyRow, emptyCells]

/-- The layout gives one character by name, in the link that closes the modal. -/
theorem reference_mem_tokens :
    .reference name ∈ tokens view ↔
      view.activeTab = .keys ∧ view.modal.isSome ∧ name = "times" := by
  simp [tokens, pageHead, pageBody, pageMain, panelSection, tabs, tabBar, tabLink, infoPane, pane,
    profileList, keysPane, addLink, flashList, summary, reference_mem_keyTable,
    reference_mem_keyModal]

end References

/-! ## What texts cannot do -/

/-- Panels of one shape have pages with the same marks in the same order, whatever their texts are.
Each ampersand of a page starts an escape, or it is that of the cross in the layout. -/
theorem texts_add_no_markup (panel : Panel) :
    (∀ another : Panel, panel.SameShape another → marks panel.render = marks another.render) ∧
      ∀ front behind, panel.render.toList = front ++ '&' :: behind →
        StartsEscape ('&' :: behind) ∨
          ∃ before after, tokens panel.view = before ++ .reference "times" :: after ∧
            front = before.flatMap Token.write ∧ "&times;".toList <+: '&' :: behind := by
  constructor
  · intro another same
    rw [Panel.render, Panel.render, marks_render, outline_tokens same, ← marks_render]
  · intro front behind split
    rcases ampersand_render (areReadable_tokens panel.view) split with
      starts | ⟨before, name, after, place, written, reference⟩
    · exact .inl starts
    · have member : .reference name ∈ tokens panel.view := by
        rw [place]
        exact List.mem_append_right before List.mem_cons_self
      obtain ⟨-, -, rfl⟩ := reference_mem_tokens.mp member
      exact .inr ⟨before, after, place, written, after.flatMap Token.write, reference.symm⟩

/-- Texts made of markup leave the marks of a page as they were. -/
theorem texts_add_no_markup_of_hostile :
    let panel : Panel :=
      { profile := ⟨"Joe", "Doe", "joe", "joe@example.org"⟩
        listed := some [⟨"desk", "AAAA"⟩]
        activeTab := .keys
        flashes := ["saved"]
        modal := some ⟨⟨"laptop", ""⟩, ⟨none, some "missing"⟩⟩ }
    let hostile : Panel :=
      { profile := ⟨"\"><script>", "&times;", "'", "<!--"⟩
        listed := some [⟨"&times;", "</table>"⟩]
        basePath := "\"&'"
        avatar := ⟨"<svg>", "\""⟩
        activeTab := .keys
        flashes := ["</ul>"]
        modal := some ⟨⟨"\" value=\"", "</textarea>"⟩, ⟨some "", some "<p>&lt;"⟩⟩ }
    panel.SameShape hostile ∧ marks panel.render = marks hostile.render := by
  intro panel hostile
  have same : panel.SameShape hostile := by
    refine ⟨rfl, rfl, rfl, rfl, fun _ _ => ?_, fun _ _ => ?_⟩
    · decide
    · decide
  exact ⟨same, (texts_add_no_markup panel).1 hostile same⟩

end Page

end AccountPanel
