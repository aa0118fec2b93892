import AccountPanel.Http.Route
import AccountPanel.Http.Submission
import AccountPanel.Page.Layout
import AccountPanel.Stylesheet

/-!
# The site

The account page behind its addresses. Each request is answered from the site's settings and one
backend. A refused add shows the form again; every other change ends in a redirection to the tab
of the keys, which shows a notice if a deletion was refused.
-/

namespace AccountPanel

/-- What does not change from request to request. -/
structure Site where
  profile : Profile
  avatar : AvatarService := {}
  stylesheet : String := Stylesheet.account
  deriving Repr, DecidableEq

/-- The notice of a deletion that was refused. -/
def deleteFailed : String := "delete-failed"

/-- The address of the account page on a tab, with a notice to show. -/
def accountUrl (tab : Tab) (notice : Option String) : String :=
  "/account?" ++ Urlencoded.query [("tab", tab.slug), ("notice", notice.getD "")]

/-- The message that a notice shows. An unknown notice shows none. -/
def noticeMessage? (notice : Option String) : Option String :=
  if notice = some deleteFailed then some "Could not delete the SSH key" else none

namespace Site

/-- The panel of the site before anything was chosen. -/
def panel (site : Site) (listed : Option (List Key)) : Panel where
  profile := site.profile
  listed := listed
  avatar := site.avatar

/-- The panel on a tab, or with the modal open. -/
def panelAt (site : Site) (listed : Option (List Key)) (tab : Tab) (modal : Bool) : Panel :=
  let panel := (site.panel listed).selectTab tab
  if modal then panel.openModal else panel

variable {σ : Type}

/-- The page on a tab, or with the modal open, for the backend's keys. -/
def renderAt (site : Site) (backend : Backend σ) (tab : Tab) (modal : Bool) :
    StateM σ String := do
  let listed ← backend.list
  return (site.panelAt listed tab modal).render

/-- The account page that a query asks for. -/
def showAccount (site : Site) (backend : Backend σ) (query : Http.PageQuery) :
    StateM σ Http.Answer := do
  let listed ← backend.list
  let panel := site.panel listed
  let panel := match noticeMessage? query.notice with
    | some message => panel.flash message
    | none => panel
  let panel := panel.selectTab (Tab.ofSlug query.tab)
  let panel := if query.modal = some "add" then panel.openModal else panel
  return .page panel.render

/-- What is left of adding a key once the keys were listed: a draft that is no key is shown again,
and so is a key that the backend refuses. -/
def finishAdd (site : Site) (backend : Backend σ) (listed : Option (List Key)) (draft : Draft) :
    StateM σ Http.Answer := do
  let panel := (site.panel listed).openModal
  match draft.toKey with
  | .error errors => return .refusedForm (panel.showForm ⟨draft, errors⟩).render
  | .ok key =>
    let (accepted, panel) ← panel.addKey backend key
    if accepted then
      return .seeOther (accountUrl .keys none)
    else
      let panel := panel.flash "Could not add the SSH key"
      return .refusedForm (panel.showForm ⟨.ofKey key, {}⟩).render

/-- Add the key that a draft stands for. -/
def addKey (site : Site) (backend : Backend σ) (draft : Draft) : StateM σ Http.Answer := do
  let listed ← backend.list
  site.finishAdd backend listed draft

/-- Delete a key. -/
def deleteKey (backend : Backend σ) (key : Key) : StateM σ Http.Answer := do
  let accepted ← Panel.deleteKey backend key
  return .seeOther (accountUrl .keys (if accepted then none else some deleteFailed))

/-- The answer at a route to a request with a method that the route is served for. -/
def answerAt (site : Site) (backend : Backend σ) (request : Http.Request) :
    Http.Route → StateM σ Http.Answer
  | .root => return .seeOther "/account"
  | .account =>
    match Http.readPageQuery request.queryFields with
    | .error cause => return .rejected (.query cause)
    | .ok query => site.showAccount backend query
  | .stylesheet => return .stylesheet site.stylesheet
  | .addKey =>
    match request.draft with
    | .error cause => return .rejected cause
    | .ok draft => site.addKey backend draft
  | .deleteKey =>
    match request.key with
    | .error cause => return .rejected cause
    | .ok key => deleteKey backend key

/-- The answer to a request. -/
def answer (site : Site) (backend : Backend σ) (request : Http.Request) :
    StateM σ Http.Answer :=
  match Http.Route.ofPath? request.path with
  | none => return .notFound
  | some route =>
    if route.methods.contains request.method then site.answerAt backend request route
    else return route.refuseMethod

/-- The response to a request. -/
def respond (site : Site) (backend : Backend σ) (request : Http.Request) :
    StateM σ Http.Response := do
  let answer ← site.answer backend request
  return if request.isHead then answer.response.headOnly else answer.response

/-- The responses to requests in turn. -/
def respondAll (site : Site) (backend : Backend σ) (requests : List Http.Request) :
    StateM σ (List Http.Response) :=
  requests.mapM (site.respond backend)

end Site

end AccountPanel
