import AccountPanel.Page.Layout
import AccountPanel.Proofs.Markup.Nested

/-!
# The markup of a page

Every page is nested and all of its names are plain, whatever texts it shows. So a written page
reads as the pieces of its tokens, and each part of the layout can be looked at on its own.
-/

namespace AccountPanel.Page

open Markup

variable (view : View)

/-! ## Plain names -/

section Readable

attribute [local simp] isName isNameCharacter

theorem areReadable_tabBar : areReadable (tabBar view) = true := by
  simp [tabBar, tabLink]

theorem areReadable_summary : areReadable (summary view) = true := by
  simp [summary]

theorem areReadable_infoPane : areReadable (infoPane view) = true := by
  simp [infoPane, pane, profileList]

theorem areReadable_keyTable : areReadable (keyTable view) = true := by
  have empty : areReadable
      (if view.keys.isEmpty then newline 4 :: emptyRow ++ [newline 4] else []) = true := by
    split <;> simp [emptyRow, emptyCells]
  simp only [keyTable, tableHead, headings, tableRows, areReadable_element, areReadable_append,
    areReadable_lines, List.all_cons, List.all_nil, areReadable_flatMap, keyRow, empty]
  simp [rowCells, formCell, deleteFields, hiddenInput]

theorem areReadable_fieldError (message : String) : areReadable (fieldError message) = true := by
  rw [fieldError]
  split <;> simp

theorem areReadable_keyModal : areReadable (keyModal view) = true := by
  simp [keyModal, modalHeader, keyForm, formFields, nameFields, nameInput, textFields,
    textInput, formActions, areReadable_fieldError, references]

theorem areReadable_keysPane : areReadable (keysPane view) = true := by
  have modal : areReadable
      (if view.modal.isSome then newline 6 :: keyModal view ++ [newline 6] else []) = true := by
    split <;> simp [areReadable_keyModal]
  simpa [keysPane, pane, areReadable_keyTable, addLink] using modal

theorem areReadable_flashList (messages : List String) :
    areReadable (flashList messages) = true := by
  rw [flashList]
  split <;> simp

theorem areReadable_tokens : areReadable (tokens view) = true := by
  have info : areReadable (if view.activeTab = .info then infoPane view else []) = true := by
    split <;> simp [areReadable_infoPane]
  have keys : areReadable (if view.activeTab = .keys then keysPane view else []) = true := by
    split <;> simp [areReadable_keysPane]
  simp [tokens, pageHead, pageBody, pageMain, panelSection, tabs, areReadable_tabBar,
    areReadable_summary, areReadable_flashList, info, keys]

end Readable

/-- A page reads as the pieces of its tokens. -/
theorem read_render (panel : Panel) : read panel.render = pieces (tokens panel.view) :=
  Markup.read_render (areReadable_tokens panel.view)

/-! ## Nesting -/

theorem nested_summary : Nested (summary view) := by
  have names : Nested
      (lines 6 [[.text view.fullName], [.opening "br" []],
        textElement "strong" [] view.profile.username] ++ [newline 4]) :=
    .append
      (.line (.text _ .nil) (.line (.void (by decide) .nil)
        (.line (.textElement (by decide) _) .noLines)))
      (.newline .nil 4)
  exact .element (by decide) <| .append
    (.line (.void (by decide) .nil) (.line (.element (by decide) names) .noLines))
    (.newline .nil 2)

theorem nested_tabBar : Nested (tabBar view) :=
  .element (by decide) <| .append
    (.line (.textElement (by decide) _) (.line (.textElement (by decide) _) .noLines))
    (.newline .nil 4)

theorem nested_profileList (profile : Profile) : Nested (profileList profile) := by
  refine .element (by decide) (.append (.lines ?_) (.newline .nil 0))
  intro part member
  simp only [List.mem_cons, List.not_mem_nil, or_false] at member
  rcases member with rfl | rfl | rfl | rfl | rfl | rfl | rfl | rfl <;>
    exact .textElement (by decide) _

theorem nested_pane (id : String) {content : List Token} (nested : Nested content) :
    Nested (pane id content) :=
  ((Nested.element (by decide) nested).newline 4).append (.newline .nil 4)

theorem nested_infoPane : Nested (infoPane view) :=
  nested_pane "tab-info"
    (.append (.line (nested_profileList view.profile) .noLines) (.newline .nil 4))

theorem nested_deleteFields (key : Key) : Nested (deleteFields key) :=
  .append
    (.line (.void (by decide) .nil) (.line (.void (by decide) .nil)
      (.line (.textElement (by decide) _) .noLines)))
    (.newline .nil 8)

theorem nested_formCell (deleteUrl : String) (key : Key) : Nested (formCell deleteUrl key) :=
  .append (.line (.element (by decide) (nested_deleteFields key)) .noLines) (.newline .nil 6)

theorem nested_rowCells (deleteUrl : String) (key : Key) : Nested (rowCells deleteUrl key) :=
  .append
    (.line (.textElement (by decide) _)
      (.line (.element (by decide) (.textElement (by decide) _))
        (.line (.element (by decide) (nested_formCell deleteUrl key)) .noLines)))
    (.newline .nil 4)

theorem nested_keyRow (deleteUrl : String) (key : Key) : Nested (keyRow deleteUrl key) :=
  .element (by decide) (nested_rowCells deleteUrl key)

theorem nested_emptyCells : Nested emptyCells :=
  .append (.line (.textElement (by decide) _) .noLines) (.newline .nil 4)

theorem nested_emptyRow : Nested emptyRow := .element (by decide) nested_emptyCells

theorem nested_headings : Nested headings :=
  .append
    (.line (.textElement (by decide) _) (.line (.textElement (by decide) _)
      (.line (.element (by decide) .nil) .noLines)))
    (.newline .nil 4)

theorem nested_tableHead : Nested tableHead :=
  .element (by decide) <|
    .append (.line (.element (by decide) nested_headings) .noLines) (.newline .nil 2)

theorem nested_keyRows :
    Nested
      (view.keys.flatMap fun key => newline 4 :: keyRow view.deleteUrl key ++ [newline 4]) :=
  .flatMap fun key _ => ((nested_keyRow view.deleteUrl key).newline 4).append (.newline .nil 4)

theorem nested_emptyPlace :
    Nested (if view.keys.isEmpty then newline 4 :: emptyRow ++ [newline 4] else []) := by
  split
  · exact (nested_emptyRow.newline 4).append (.newline .nil 4)
  · exact .nil

theorem nested_tableRows : Nested (tableRows view) :=
  .append (.append (.append (.append (.newline .nil 4) (nested_keyRows view)) (.newline .nil 4))
    (nested_emptyPlace view)) (.newline .nil 2)

theorem nested_keyTable : Nested (keyTable view) :=
  .element (by decide) <| .append
    (.line nested_tableHead (.line (.element (by decide) (nested_tableRows view)) .noLines))
    (.newline .nil 0)

theorem nested_fieldError (message : String) : Nested (fieldError message) := by
  rw [fieldError]
  split
  · exact .nil
  · exact ((Nested.textElement (by decide) message).newline 2).append (.newline .nil 2)

theorem nested_formActions : Nested (formActions view) :=
  .element (by decide) <| .append
    (.line (.textElement (by decide) _) (.line (.textElement (by decide) _) .noLines))
    (.newline .nil 2)

theorem nested_nameFields : Nested (nameFields view) :=
  .line (.textElement (by decide) _) (.line (.void (by decide) .nil)
    (.line (nested_fieldError view.nameError) (.line (.textElement (by decide) _) .noLines)))

theorem nested_textFields : Nested (textFields view) :=
  .line (.textElement (by decide) _)
    (.line (nested_fieldError view.textError) (.line (nested_formActions view) .noLines))

theorem nested_formFields : Nested (formFields view) :=
  .append (.append (nested_nameFields view) (nested_textFields view)) (.newline .nil 0)

theorem nested_modalHeader : Nested (modalHeader view) :=
  .element (by decide) <| .append
    (.line (.textElement (by decide) _)
      (.line (.element (by decide) (.reference _ .nil)) .noLines))
    (.newline .nil 10)

theorem nested_keyForm : Nested (keyForm view) :=
  .element (by decide) (nested_formFields view)

theorem nested_keyModal : Nested (keyModal view) := by
  have inside : Nested (lines 10 [modalHeader view, keyForm view] ++ [newline 8]) :=
    .append (.line (nested_modalHeader view) (.line (nested_keyForm view) .noLines))
      (.newline .nil 8)
  exact .element (by decide) <|
    .append (.line (.element (by decide) inside) .noLines) (.newline .nil 6)

theorem nested_addLink : Nested (addLink view) := .textElement (by decide) _

theorem nested_modalPlace :
    Nested (if view.modal.isSome then newline 6 :: keyModal view ++ [newline 6] else []) := by
  split
  · exact ((nested_keyModal view).newline 6).append (.newline .nil 6)
  · exact .nil

theorem nested_keysPane : Nested (keysPane view) :=
  nested_pane "tab-ssh-keys" <| .append
    (.line (nested_keyTable view) (.line (nested_addLink view)
      (.line (nested_modalPlace view) .noLines)))
    (.newline .nil 4)

theorem nested_flashList (messages : List String) : Nested (flashList messages) := by
  rw [flashList]
  split
  · exact .nil
  · have items : Nested
        (messages.flatMap fun message => newline 6 :: textElement "li" [] message ++ [newline 6]) :=
      .flatMap fun message _ =>
        ((Nested.textElement (by decide) message).newline 6).append (.newline .nil 6)
    have content := ((Nested.newline .nil 6).append items).append (.newline .nil 4)
    exact ((Nested.element (by decide) content).newline 4).append (.newline .nil 4)

theorem nested_infoPlace : Nested (if view.activeTab = .info then infoPane view else []) := by
  split
  · exact nested_infoPane view
  · exact .nil

theorem nested_keysPlace : Nested (if view.activeTab = .keys then keysPane view else []) := by
  split
  · exact nested_keysPane view
  · exact .nil

theorem nested_tabs : Nested (tabs view) :=
  .element (by decide) <| .append
    (.line (nested_tabBar view)
      (.line (nested_infoPlace view) (.line (nested_keysPlace view) .noLines)))
    (.newline .nil 2)

theorem nested_panelSection : Nested (panelSection view) := by
  have content : Nested (lines 2 [summary view, tabs view] ++ [newline 0]) :=
    .append (.line (nested_summary view) (.line (nested_tabs view) .noLines)) (.newline .nil 0)
  exact ((Nested.element (by decide) content).newline 0).append (.newline .nil 0)

theorem nested_pageHead : Nested (pageHead view) :=
  .element (by decide) <| .append
    (.line (.void (by decide) .nil) (.line (.void (by decide) .nil)
      (.line (.textElement (by decide) _) (.line (.void (by decide) .nil) .noLines))))
    (.newline .nil 0)

theorem nested_pageMain : Nested (pageMain view) :=
  .element (by decide) <| .append
    (.line (nested_flashList view.flashes) (.line (nested_panelSection view) .noLines))
    (.newline .nil 2)

theorem nested_pageBody : Nested (pageBody view) :=
  .element (by decide) (.append (.line (nested_pageMain view) .noLines) (.newline .nil 0))

end AccountPanel.Page
