import AccountPanel.Page.Form
import AccountPanel.Page.View

/-!
# The content of a page

What a person learns from a page, once worked out from the panel and once read off the written
page. Nothing that the page leaves out belongs to it: the pane of the other tab, the form of a
closed modal, and the difference between no message and an empty one.
-/

namespace AccountPanel.Page

open Markup

/-- The form for a new key as the modal shows it. No message is an empty message. -/
structure ShownForm where
  draft : Draft
  nameError : String
  textError : String
  deriving Repr, DecidableEq

/-- The pane of the chosen tab. -/
inductive Pane where
  | info (firstName lastName email : String)
  /-- The keys of the table, and the form of the modal while it is open. -/
  | keys (keys : List Key) (form : Option ShownForm)
  deriving Repr, DecidableEq

/-- What a page tells its reader. -/
structure Content where
  flashes : List String
  username : String
  fullName : String
  avatarUrl : String
  basePath : String
  pane : Pane
  deriving Repr, DecidableEq

/-- The form that a modal shows. -/
def ShownForm.ofModal (modal : Modal) : ShownForm where
  draft := modal.draft
  nameError := modal.errors.name.getD ""
  textError := modal.errors.text.getD ""

/-- The pane that a panel shows. -/
def Pane.ofPanel (panel : Panel) : Pane :=
  match panel.activeTab with
  | .info => .info panel.profile.firstName panel.profile.lastName panel.profile.email
  | .keys => .keys panel.keys (panel.modal.map .ofModal)

/-- What the page of a panel tells its reader. -/
def Content.ofPanel (panel : Panel) : Content where
  flashes := panel.flashes
  username := panel.profile.username
  fullName := panel.profile.fullName
  avatarUrl := panel.avatar.url panel.profile.username
  basePath := panel.basePath
  pane := .ofPanel panel

/-- A row of the table of keys: the key it shows and the forms it holds. -/
structure Row where
  key : Key
  forms : List Form
  deriving Repr, DecidableEq

namespace Reading

/-- The content of the first element with this tag, empty if there is none. -/
def contentOf (tag : String) (pieces : List Piece) : List Piece :=
  ((Piece.elements tag pieces).head?.map (·.2)).getD []

/-- The text of the first element with this tag, empty if there is none. -/
def textOf (tag : String) (pieces : List Piece) : String := Piece.text (contentOf tag pieces)

/-- An attribute of the first element with this tag, empty if there is none. -/
def attributeOf (tag name : String) (pieces : List Piece) : String :=
  ((Piece.elements tag pieces).head?.map fun (attributes, _) =>
    Form.attributeValue attributes name).getD ""

/-- The rows of the table of keys. -/
def rows (pieces : List Piece) : List Row :=
  (Piece.classed "tr" "ssh-key-row" pieces).map fun content =>
    ⟨⟨String.join ((Piece.classed "td" "ssh-key-name" content).map Piece.text),
      textOf "code" content⟩, Form.among content⟩

/-- What the table says in the place of keys. -/
def emptyNotes (pieces : List Piece) : List String :=
  (Piece.classed "tr" "empty" pieces).map (textOf "td")

/-- The messages above the panel. -/
def flashes (pieces : List Piece) : List String :=
  (Piece.elements "li" pieces).map fun (_, content) => Piece.text content

/-- The line above the user name, without the line breaks of the layout around it. -/
def fullName (pieces : List Piece) : String :=
  let line := (contentOf "p" pieces).takeWhile (· != .opening "br" [])
  String.ofList (((Piece.text line).toList.drop 7).reverse.drop 7).reverse

/-- The address of the page, from the link of the first tab. -/
def basePath (pieces : List Piece) : String :=
  let link := (attributeOf "a" "href" pieces).toList
  String.ofList (link.take (link.length - "?tab=info".length))

/-- The label of the chosen tab. -/
def chosenLabel (pieces : List Piece) : String :=
  String.join ((Piece.classed "a" "tab active" pieces).map Piece.text)

/-- Does a text area start here? -/
def isArea : Piece → Bool
  | .opening tag _ => tag == "textarea"
  | _ => false

/-- The messages beside fields, one behind the other. -/
def errorsAmong (pieces : List Piece) : String :=
  String.join ((Piece.classed "p" "field-error" pieces).map Piece.text)

/-- The messages beside the fields of a form, those of the first field apart from the others. -/
def fieldErrors (content : List Piece) : String × String :=
  (errorsAmong (content.takeWhile (!isArea ·)), errorsAmong (content.dropWhile (!isArea ·)))

/-- The form of the modal, if the modal is shown. -/
def modalForm? (pieces : List Piece) : Option ShownForm :=
  (Piece.classed "form" "ssh-key-form" pieces).head?.map fun content =>
    let fields := Form.fieldsAmong content
    let errors := fieldErrors content
    ⟨⟨(fields.lookup "name").getD "", (fields.lookup "key").getD ""⟩, errors.1, errors.2⟩

/-- The pane of the chosen tab. -/
def pane (pieces : List Piece) : Pane :=
  if chosenLabel pieces = "Info" then
    let terms := (Piece.elements "dd" pieces).map fun (_, content) => Piece.text content
    .info (terms[0]?.getD "") (terms[1]?.getD "") (terms[3]?.getD "")
  else .keys ((rows pieces).map (·.key)) (modalForm? pieces)

end Reading

/-- What a written page tells its reader. -/
def Content.read (page : String) : Content :=
  let pieces := Markup.read page
  { flashes := Reading.flashes pieces
    username := Reading.textOf "strong" pieces
    fullName := Reading.fullName pieces
    avatarUrl := Reading.attributeOf "img" "src" pieces
    basePath := Reading.basePath pieces
    pane := Reading.pane pieces }

end AccountPanel.Page
