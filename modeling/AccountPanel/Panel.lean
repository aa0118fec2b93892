import AccountPanel.Avatar
import AccountPanel.Backend
import AccountPanel.Profile
import AccountPanel.Tab
import AccountPanel.Urlencoded

/-!
# The panel

What an account page shows at one moment: a profile, a list of keys that was handed in, the chosen
tab and the modal for a new key. The modal is either absent or holds a form, so a closed modal
never keeps anything that was typed. Adding and deleting keys is left to a backend; only an add
that the backend accepts closes the modal.
-/

namespace AccountPanel

/-- The form for a new key: what was typed, and the messages beside the fields. -/
structure Modal where
  draft : Draft := {}
  errors : FieldErrors := {}
  deriving Repr, DecidableEq

/-- What an account page shows. -/
structure Panel where
  profile : Profile
  /-- The keys that were handed in, or `none` if nobody could list them. -/
  listed : Option (List Key)
  basePath : String := "/account"
  avatar : AvatarService := {}
  activeTab : Tab := .info
  /-- The form of the open modal, or `none` while the modal is closed. -/
  modal : Option Modal := none
  /-- The messages above the panel, in the order they were given. -/
  flashes : List String := []
  deriving Repr, DecidableEq

namespace Panel

/-- The keys shown in the table. -/
def keys (panel : Panel) : List Key := panel.listed.getD []

/-- Choose a tab. -/
def selectTab (panel : Panel) (tab : Tab) : Panel := { panel with activeTab := tab }

/-- Open the modal, which lives on the tab of the keys. An open modal keeps its form. -/
def openModal (panel : Panel) : Panel :=
  { panel with activeTab := .keys, modal := some (panel.modal.getD {}) }

/-- Close the modal and forget its form. -/
def closeModal (panel : Panel) : Panel := { panel with modal := none }

/-- Open the modal with the given form. -/
def showForm (panel : Panel) (form : Modal) : Panel :=
  { panel with activeTab := .keys, modal := some form }

/-- Add a message above the panel. -/
def flash (panel : Panel) (message : String) : Panel :=
  { panel with flashes := panel.flashes ++ [message] }

/-- The path of the page with a query built from `fields`. -/
def link (panel : Panel) (fields : List Urlencoded.Field) : String :=
  panel.basePath ++ "?" ++ Urlencoded.query fields

/-- The link that shows a tab. -/
def tabUrl (panel : Panel) (tab : Tab) : String := panel.link [("tab", tab.slug)]

/-- The link that opens the modal. -/
def openModalUrl (panel : Panel) : String :=
  panel.link [("tab", Tab.keys.slug), ("modal", "add")]

/-- Where the form for a new key is sent. -/
def addUrl (panel : Panel) : String := panel.basePath ++ "/ssh-keys"

/-- Where the form that deletes a key is sent. -/
def deleteUrl (panel : Panel) : String := panel.basePath ++ "/ssh-keys/delete"

variable {σ : Type}

/-- Ask the backend to add a key. The modal closes if the backend accepts. -/
def addKey (backend : Backend σ) (panel : Panel) (key : Key) : StateM σ (Bool × Panel) := do
  let accepted ← backend.add key
  pure (accepted, if accepted then panel.closeModal else panel)

/-- Ask the backend to delete a key. -/
def deleteKey (backend : Backend σ) (key : Key) : StateM σ Bool := backend.delete key

/-- One operation on a panel. -/
inductive Step where
  | selectTab (tab : Tab)
  | openModal
  | closeModal
  | showForm (form : Modal)
  | flash (message : String)
  | basePath (path : String)
  | avatar (service : AvatarService)
  | change (change : Store.Change)
  deriving Repr, DecidableEq

/-- Carry out one operation. Only a change has an answer, the backend's. -/
def step (backend : Backend σ) (panel : Panel) : Step → StateM σ (Option Bool × Panel)
  | .selectTab tab => pure (none, panel.selectTab tab)
  | .openModal => pure (none, panel.openModal)
  | .closeModal => pure (none, panel.closeModal)
  | .showForm form => pure (none, panel.showForm form)
  | .flash message => pure (none, panel.flash message)
  | .basePath path => pure (none, { panel with basePath := path })
  | .avatar service => pure (none, { panel with avatar := service })
  | .change (.add key) => do
    let (accepted, panel) ← panel.addKey backend key
    pure (some accepted, panel)
  | .change (.delete key) => do
    let accepted ← deleteKey backend key
    pure (some accepted, panel)

/-- Carry out operations in order. -/
def run (backend : Backend σ) (panel : Panel) : List Step → StateM σ Panel
  | [] => pure panel
  | operation :: operations => do
    let (_, next) ← panel.step backend operation
    next.run backend operations

end Panel

end AccountPanel
