import AccountPanel.Panel

/-!
# What a page shows

The texts and links of a page, worked out from a panel before anything is written.
-/

namespace AccountPanel

/-- The texts and links of a page. -/
structure View where
  flashes : List String
  profile : Profile
  fullName : String
  avatarUrl : String
  activeTab : Tab
  infoUrl : String
  keysUrl : String
  openModalUrl : String
  addUrl : String
  deleteUrl : String
  keys : List Key
  modal : Option Modal
  deriving Repr, DecidableEq

/-- The view of a panel. -/
def Panel.view (panel : Panel) : View where
  flashes := panel.flashes
  profile := panel.profile
  fullName := panel.profile.fullName
  avatarUrl := panel.avatar.url panel.profile.username
  activeTab := panel.activeTab
  infoUrl := panel.tabUrl .info
  keysUrl := panel.tabUrl .keys
  openModalUrl := panel.openModalUrl
  addUrl := panel.addUrl
  deleteUrl := panel.deleteUrl
  keys := panel.keys
  modal := panel.modal

namespace View

/-- The form of the modal. It is empty while the modal is closed. -/
def form (view : View) : Modal := view.modal.getD {}

/-- The message beside the name field, empty if there is none. -/
def nameError (view : View) : String := view.form.errors.name.getD ""

/-- The message beside the key field, empty if there is none. -/
def textError (view : View) : String := view.form.errors.text.getD ""

end View

end AccountPanel
