import AccountPanel.Proofs.Markup.Openings
import AccountPanel.Proofs.Page.Elements
import AccountPanel.Page.Content

/-!
# The tags that a page opens

The opened tags of a page, part by part. The first link and the only picture stand above the pane
of the chosen tab, and the identifiers of a page tell which pane it has and whether the modal is
there. No text of a user is an identifier.
-/

namespace AccountPanel.Page

open Markup Piece

variable (view : View)

/-! ## The parts of a page -/

theorem openings_flashList (messages : List String) :
    openings (flashList messages) =
      if messages = [] then [] else
        ("ul", [("class", "flash")]) :: messages.map fun _ => ("li", []) := by
  cases messages <;> simp [flashList, List.map_eq_flatMap]

theorem openings_summary :
    openings (summary view) =
      [("div", [("class", "col col-summary")]),
        ("img", [("class", "avatar"), ("src", view.avatarUrl),
          ("alt", "Avatar of " ++ view.profile.username), ("width", "100"), ("height", "100")]),
        ("p", [("class", "user-name")]), ("br", []), ("strong", [])] := by
  simp [summary]

theorem openings_tabLink (url label : String) (active : Bool) :
    openings (tabLink url label active) =
      [("a", [("role", "tab"), ("href", url), ("class", if active then "tab active" else "tab"),
        ("aria-selected", if active then "true" else "false")])] := by
  rw [tabLink, openings_textElement]

theorem openings_tabBar :
    openings (tabBar view) =
      ("nav", [("class", "tabs"), ("role", "tablist")]) ::
        (openings (tabLink view.infoUrl "Info" (view.activeTab = .info)) ++
          openings (tabLink view.keysUrl "SSH Keys" (view.activeTab = .keys))) := by
  simp [tabBar]

theorem openings_tabs :
    openings (tabs view) =
      ("div", [("class", "col col-tabs")]) ::
        (openings (tabBar view) ++ openings (chosenPane view)) := by
  simp only [tabs, chosenPane, openings_element, openings_append, openings_lines]
  cases view.activeTab <;> simp

theorem openings_pageHead :
    openings (pageHead view) =
      [("head", []), ("meta", [("charset", "utf-8")]),
        ("meta", [("name", "viewport"), ("content", "width=device-width, initial-scale=1")]),
        ("title", []), ("link", [("rel", "stylesheet"), ("href", "/static/styles.css")])] := by
  simp [pageHead]

/-- The tags of a page stand in the order of its parts. -/
theorem openings_tokens :
    openings (tokens view) =
      ("html", [("lang", "en")]) ::
        (openings (pageHead view) ++
          ("body", []) :: ("main", [("class", "container")]) ::
            (openings (flashList view.flashes) ++
              ("section", [("class", "user-panel row")]) ::
                (openings (summary view) ++ openings (tabs view)))) := by
  simp [tokens, pageBody, pageMain, panelSection]

/-! ## The first link and the picture -/

/-- An attribute is read off the first tag that is opened with this name. -/
theorem attributeOf_pieces {tag : String} {tokens : List Token}
    {attributes : List (String × String)} (name : String)
    (first : (openings tokens).find? (·.1 == tag) = some (tag, attributes)) :
    Reading.attributeOf tag name (pieces tokens) = Form.attributeValue attributes name := by
  have found := head?_elements tag (pieces tokens)
  rw [openings_pieces, first] at found
  rcases Option.map_eq_some_iff.mp found with ⟨⟨opened, content⟩, head, same⟩
  rw [Reading.attributeOf, head]
  exact congrArg (Form.attributeValue · name) same

theorem find?_openings_flashList {tag : String} (noList : "ul" ≠ tag) (noItem : "li" ≠ tag)
    (messages : List String) : (openings (flashList messages)).find? (·.1 == tag) = none := by
  rw [openings_flashList]
  split <;> simp [noList, noItem]

/-- The picture is the one at the address of the view. -/
theorem attributeOf_img_tokens :
    Reading.attributeOf "img" "src" (pieces (tokens view)) = view.avatarUrl := by
  have noFlash := find?_openings_flashList (show "ul" ≠ "img" by decide) (by decide) view.flashes
  have first : (openings (tokens view)).find? (·.1 == "img") =
      some ("img", [("class", "avatar"), ("src", view.avatarUrl),
        ("alt", "Avatar of " ++ view.profile.username), ("width", "100"), ("height", "100")]) := by
    simp [openings_tokens, openings_pageHead, openings_summary, List.find?_append, noFlash]
  rw [attributeOf_pieces "src" first]
  rfl

/-- The first link is the one that shows the tab of the profile. -/
theorem attributeOf_a_tokens :
    Reading.attributeOf "a" "href" (pieces (tokens view)) = view.infoUrl := by
  have noFlash := find?_openings_flashList (show "ul" ≠ "a" by decide) (by decide) view.flashes
  have first : (openings (tokens view)).find? (·.1 == "a") =
      some ("a", [("role", "tab"), ("href", view.infoUrl),
        ("class", if view.activeTab = .info then "tab active" else "tab"),
        ("aria-selected", if view.activeTab = .info then "true" else "false")]) := by
    simp [openings_tokens, openings_pageHead, openings_summary, openings_tabs, openings_tabBar,
      openings_tabLink, List.find?_append, noFlash]
  rw [attributeOf_pieces "href" first]
  rfl

/-! ## Identifiers -/

section Identifiers

attribute [local simp] List.lookup_cons

theorem identifiers_flashList (messages : List String) :
    identifiers (openings (flashList messages)) = [] := by
  rw [openings_flashList]
  split
  · rfl
  · rw [identifiers_cons, List.map_eq_flatMap]
    exact identifiers_flatMap_eq_nil fun _ => rfl

theorem identifiers_infoPane : identifiers (openings (infoPane view)) = ["tab-info"] := by
  simp [infoPane, pane, profileList]

theorem identifiers_keyRow (deleteUrl : String) (key : Key) :
    identifiers (openings (keyRow deleteUrl key)) = [] := by
  simp [keyRow, rowCells, formCell, deleteFields, hiddenInput]

theorem identifiers_tableRows : identifiers (openings (tableRows view)) = [] := by
  have rows : identifiers
      (view.keys.flatMap fun key => openings (keyRow view.deleteUrl key)) = [] :=
    identifiers_flatMap_eq_nil (identifiers_keyRow view.deleteUrl)
  rw [tableRows]
  split <;> simp [rows, emptyRow, emptyCells]

/-- The table has no identifiers, however many keys it shows. -/
theorem identifiers_keyTable : identifiers (openings (keyTable view)) = [] := by
  simp [keyTable, tableHead, headings, identifiers_tableRows]

theorem identifiers_fieldError (message : String) :
    identifiers (openings (fieldError message)) = [] := by
  rw [fieldError]
  split <;> simp

theorem identifiers_keyModal :
    identifiers (openings (keyModal view)) =
      ["ssh-key-modal", "ssh-key-modal-title", "ssh-key-name", "ssh-key-key",
        "cancel-ssh-key"] := by
  simp [keyModal, modalHeader, keyForm, formFields, nameFields, nameInput, textFields, textInput,
    formActions, identifiers_fieldError]

/-- The identifiers of a page tell the tab, and whether the modal is shown. -/
theorem ids_tokens :
    ids (pieces (tokens view)) =
      match view.activeTab with
      | .info => ["tab-info"]
      | .keys =>
        "tab-ssh-keys" :: "add-ssh-key" ::
          if view.modal.isSome then
            ["ssh-key-modal", "ssh-key-modal-title", "ssh-key-name", "ssh-key-key",
              "cancel-ssh-key"]
          else [] := by
  have upper : identifiers (openings (tokens view)) =
      identifiers (openings (chosenPane view)) := by
    simp [openings_tokens, openings_pageHead, openings_summary, openings_tabs, openings_tabBar,
      openings_tabLink, identifiers_flashList]
  rw [ids_pieces, upper, chosenPane]
  cases view.activeTab with
  | info => exact identifiers_infoPane view
  | keys =>
      have modal : identifiers (openings
          (if view.modal.isSome then newline 6 :: keyModal view ++ [newline 6] else [])) =
          if view.modal.isSome then identifiers (openings (keyModal view)) else [] := by
        split <;> simp
      rw [identifiers_keyModal] at modal
      simpa [keysPane, pane, identifiers_keyTable, addLink] using modal

end Identifiers

end AccountPanel.Page
