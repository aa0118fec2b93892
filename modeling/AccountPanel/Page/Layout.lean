import AccountPanel.Markup.Token
import AccountPanel.Page.View

/-!
# The layout of a page

The tokens of a page, from its view. Every line break and every space of the layout is fixed; an
optional part leaves the blank line of its place behind when it is absent.
-/

namespace AccountPanel.Page

open Markup

/-- A tab in the row of tabs. -/
def tabLink (url label : String) (active : Bool) : List Token :=
  textElement "a"
    [("role", "tab"), ("href", url), ("class", if active then "tab active" else "tab"),
      ("aria-selected", if active then "true" else "false")]
    label

/-- The picture and the names of the person. -/
def summary (view : View) : List Token :=
  element "div" [("class", "col col-summary")] <|
    lines 4
      [[.opening "img"
          [("class", "avatar"), ("src", view.avatarUrl),
            ("alt", "Avatar of " ++ view.profile.username), ("width", "100"), ("height", "100")]],
        element "p" [("class", "user-name")] <|
          lines 6
            [[.text view.fullName],
              [.opening "br" []],
              textElement "strong" [] view.profile.username] ++
          [newline 4]] ++
    [newline 2]

/-- The profile as a list of terms. -/
def profileList (profile : Profile) : List Token :=
  element "dl" [("class", "user-info")] <|
    lines 2
      [textElement "dt" [] "Name",
        textElement "dd" [] profile.firstName,
        textElement "dt" [] "Surname",
        textElement "dd" [] profile.lastName,
        textElement "dt" [] "Username",
        textElement "dd" [] profile.username,
        textElement "dt" [] "Email",
        textElement "dd" [] profile.email] ++
    [newline 0]

/-- A field that the reader does not see. -/
def hiddenInput (name value : String) : List Token :=
  [.opening "input" [("type", "hidden"), ("name", name), ("value", value)]]

/-- The fields and the button of the form that deletes a key. -/
def deleteFields (key : Key) : List Token :=
  lines 10
    [hiddenInput "name" key.name,
      hiddenInput "key" key.text,
      textElement "button" [("type", "submit"), ("class", "button danger")] "Delete"] ++
  [newline 8]

/-- The cell with the form that deletes a key. -/
def formCell (deleteUrl : String) (key : Key) : List Token :=
  lines 8 [element "form" [("method", "post"), ("action", deleteUrl)] (deleteFields key)] ++
  [newline 6]

/-- The cells of the row of a key. -/
def rowCells (deleteUrl : String) (key : Key) : List Token :=
  lines 6
    [textElement "td" [("class", "ssh-key-name")] key.name,
      element "td" [("class", "ssh-key-value")] (textElement "code" [] key.text),
      element "td" [] (formCell deleteUrl key)] ++
  [newline 4]

/-- The row of a key. -/
def keyRow (deleteUrl : String) (key : Key) : List Token :=
  element "tr" [("class", "ssh-key-row")] (rowCells deleteUrl key)

/-- The cell of the row that stands for an empty table. -/
def emptyCells : List Token :=
  lines 6 [textElement "td" [("colspan", "3")] "No SSH keys"] ++ [newline 4]

/-- The row that stands for an empty table. -/
def emptyRow : List Token := element "tr" [("class", "empty")] emptyCells

/-- The headings of the table. -/
def headings : List Token :=
  lines 6 [textElement "th" [] "Name", textElement "th" [] "Key", element "th" [] []] ++
  [newline 4]

/-- The head of the table. -/
def tableHead : List Token :=
  element "thead" [] <| lines 4 [element "tr" [] headings] ++ [newline 2]

/-- The rows of the table. -/
def tableRows (view : View) : List Token :=
  [newline 4] ++
  view.keys.flatMap (fun key => newline 4 :: keyRow view.deleteUrl key ++ [newline 4]) ++
  [newline 4] ++
  (if view.keys.isEmpty then newline 4 :: emptyRow ++ [newline 4] else []) ++
  [newline 2]

/-- The table of the keys. -/
def keyTable (view : View) : List Token :=
  element "table" [("class", "ssh-keys")] <|
    lines 2 [tableHead, element "tbody" [] (tableRows view)] ++ [newline 0]

/-- The message beside a field of the form, in the place it has when there is one. -/
def fieldError (message : String) : List Token :=
  if message.isEmpty then []
  else newline 2 :: textElement "p" [("class", "field-error")] message ++ [newline 2]

/-- The field for the name of a new key. -/
def nameInput (view : View) : List Token :=
  [.opening "input"
    [("id", "ssh-key-name"), ("type", "text"), ("name", "name"),
      ("value", view.form.draft.name), ("placeholder", "Insert key name")]]

/-- The field for the text of a new key. -/
def textInput (view : View) : List Token :=
  textElement "textarea"
    [("id", "ssh-key-key"), ("name", "key"), ("rows", "6"), ("placeholder", "Insert public key")]
    view.form.draft.text

/-- What stands below the fields for a new key. -/
def formActions (view : View) : List Token :=
  element "div" [("class", "form-actions")] <|
    lines 4
      [textElement "a"
          [("class", "button"), ("id", "cancel-ssh-key"), ("href", view.keysUrl)] "Cancel",
        textElement "button" [("type", "submit"), ("class", "button primary")] "Save"] ++
    [newline 2]

/-- The field for the name of a new key with its label and its message, and the label of the field
for the text. -/
def nameFields (view : View) : List Token :=
  lines 2
    [textElement "label" [("for", "ssh-key-name")] "Name", nameInput view,
      fieldError view.nameError, textElement "label" [("for", "ssh-key-key")] "Key"]

/-- The field for the text of a new key with its message, and what stands below the fields. -/
def textFields (view : View) : List Token :=
  lines 2 [textInput view, fieldError view.textError, formActions view]

/-- The fields for a new key. -/
def formFields (view : View) : List Token := nameFields view ++ textFields view ++ [newline 0]

/-- The form for a new key. -/
def keyForm (view : View) : List Token :=
  element "form" [("class", "ssh-key-form"), ("method", "post"), ("action", view.addUrl)]
    (formFields view)

/-- The title of the modal, with a link that closes it. -/
def modalHeader (view : View) : List Token :=
  element "header" [("class", "modal-header")] <|
    lines 12
      [textElement "h2" [("id", "ssh-key-modal-title")] "New SSH key",
        element "a"
          [("class", "modal-close"), ("href", view.keysUrl), ("aria-label", "Close")]
          [.reference "times"]] ++
    [newline 10]

/-- The modal for a new key. -/
def keyModal (view : View) : List Token :=
  element "div" [("class", "modal-backdrop")] <|
    lines 8
      [element "div"
        [("class", "modal"), ("id", "ssh-key-modal"), ("role", "dialog"), ("aria-modal", "true"),
          ("aria-labelledby", "ssh-key-modal-title")] <|
        lines 10 [modalHeader view, keyForm view] ++ [newline 8]] ++
    [newline 6]

/-- The pane of a tab. -/
def pane (id : String) (content : List Token) : List Token :=
  newline 4 :: element "div" [("class", "tab-pane"), ("id", id), ("role", "tabpanel")] content ++
    [newline 4]

/-- The pane of the profile. -/
def infoPane (view : View) : List Token :=
  pane "tab-info" (lines 6 [profileList view.profile] ++ [newline 4])

/-- The link that opens the modal. -/
def addLink (view : View) : List Token :=
  textElement "a" [("class", "button mt-3"), ("id", "add-ssh-key"), ("href", view.openModalUrl)]
    "Add SSH key"

/-- The pane of the keys, with the modal while it is open. -/
def keysPane (view : View) : List Token :=
  pane "tab-ssh-keys" <|
    lines 6
      [keyTable view, addLink view,
        if view.modal.isSome then newline 6 :: keyModal view ++ [newline 6] else []] ++
    [newline 4]

/-- The row of tabs. -/
def tabBar (view : View) : List Token :=
  element "nav" [("class", "tabs"), ("role", "tablist")] <|
    lines 6
      [tabLink view.infoUrl "Info" (view.activeTab = .info),
        tabLink view.keysUrl "SSH Keys" (view.activeTab = .keys)] ++
    [newline 4]

/-- The row of tabs and the pane of the chosen one. -/
def tabs (view : View) : List Token :=
  element "div" [("class", "col col-tabs")] <|
    lines 4
      [tabBar view,
        if view.activeTab = .info then infoPane view else [],
        if view.activeTab = .keys then keysPane view else []] ++
    [newline 2]

/-- The messages above the panel. -/
def flashList (messages : List String) : List Token :=
  if messages.isEmpty then []
  else
    newline 4 ::
      element "ul" [("class", "flash")]
        ([newline 6] ++
          messages.flatMap
            (fun message => newline 6 :: textElement "li" [] message ++ [newline 6]) ++
          [newline 4]) ++
      [newline 4]

/-- The panel between its two line breaks. -/
def panelSection (view : View) : List Token :=
  newline 0 ::
    element "section" [("class", "user-panel row")]
      (lines 2 [summary view, tabs view] ++ [newline 0]) ++
    [newline 0]

/-- The head of a page. -/
def pageHead (view : View) : List Token :=
  element "head" [] <|
    lines 2
      [[.opening "meta" [("charset", "utf-8")]],
        [.opening "meta"
          [("name", "viewport"), ("content", "width=device-width, initial-scale=1")]],
        textElement "title" [] (view.profile.username ++ " · Account"),
        [.opening "link" [("rel", "stylesheet"), ("href", "/static/styles.css")]]] ++
    [newline 0]

/-- The messages and the panel. -/
def pageMain (view : View) : List Token :=
  element "main" [("class", "container")] <|
    lines 4 [flashList view.flashes, panelSection view] ++ [newline 2]

/-- The body of a page. -/
def pageBody (view : View) : List Token :=
  element "body" [] <| lines 2 [pageMain view] ++ [newline 0]

/-- The tokens of a page. -/
def tokens (view : View) : List Token :=
  [.doctype, newline 0] ++
  element "html" [("lang", "en")] (lines 0 [pageHead view, pageBody view] ++ [newline 0])

end Page

/-- The page that shows a panel. -/
def Panel.render (panel : Panel) : String := Markup.render (Page.tokens panel.view)

end AccountPanel
