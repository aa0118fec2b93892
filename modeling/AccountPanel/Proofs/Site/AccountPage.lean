import AccountPanel.Proofs.Http.Record
import AccountPanel.Proofs.Page.Flashes
import AccountPanel.Proofs.Site.Answer

/-!
# The account page that a query asks for

A query for the account page names a tab, a modal and a notice. The tab and the modal decide which
page is shown; the notice decides whether a message stands above it.
-/

namespace AccountPanel

open Http

/-- Does the request ask for the account page, naming each part of its query once at most? -/
structure Http.Request.AsksPage (request : Request) : Prop where
  method : request.method = "GET"
  path : request.path = "/account"
  distinct : ∀ name ∈ ["tab", "modal", "notice"],
    (request.queryFields.map (·.1)).count name ≤ 1

/-- What the query of a request asks for, by the first field of each name. -/
def Http.Request.pageQuery (request : Request) : PageQuery where
  tab := request.queryFields.lookup "tab"
  modal := request.queryFields.lookup "modal"
  notice := request.queryFields.lookup "notice"

namespace Site

variable {σ : Type} (site : Site) (backend : Backend σ) (state : σ) {request : Request}

theorem renderAt_eq (tab : Tab) (modal : Bool) :
    site.renderAt backend tab modal state =
      ((site.panelAt (backend.list state).1 tab modal).render, (backend.list state).2) := by
  rw [renderAt, bind_apply]
  rfl

/-- The panel that a query asks for is the one on its tab, or with the modal open, below the message
of its notice. -/
theorem queryPanel_eq (listed : Option (List Key)) (query : PageQuery) :
    site.queryPanel listed query =
      { site.panelAt listed (Tab.ofSlug query.tab) (query.modal = some "add") with
        flashes := (noticeMessage? query.notice).toList } := by
  rw [queryPanel, panelAt]
  by_cases opened : query.modal = some "add"
  · simp only [opened, decide_true, if_true]
    rfl
  · simp only [opened, decide_false, Bool.false_eq_true, if_false]
    rfl

theorem flashes_panelAt (listed : Option (List Key)) (tab : Tab) (modal : Bool) :
    (site.panelAt listed tab modal).flashes = [] := by
  cases modal <;> rfl

/-- Without a message this is the panel on the tab itself. -/
theorem queryPanel_of_silent {listed : Option (List Key)} {query : PageQuery}
    (silent : noticeMessage? query.notice = none) :
    site.queryPanel listed query =
      site.panelAt listed (Tab.ofSlug query.tab) (query.modal = some "add") := by
  rw [queryPanel_eq, silent, Option.toList_none,
    ← site.flashes_panelAt listed (Tab.ofSlug query.tab) (query.modal = some "add")]

/-- The response to a query is a page with the message of its notice, and the backend only lists its
keys. -/
theorem respond_of_asksPage (asks : request.AsksPage) :
    site.respond backend request state =
      ((Answer.page (site.queryPanel (backend.list state).1 request.pageQuery).render).response,
        (backend.list state).2) :=
  site.respond_of_query backend state asks.method asks.path
    (readPageQuery_of_distinct asks.distinct)

/-- What is answered to a query is the page that its tab and its modal ask for, with one block more
if its notice has a message. -/
theorem respond_as_renderAt (asks : request.AsksPage) :
    let query := request.pageQuery
    let once := site.renderAt backend (Tab.ofSlug query.tab) (query.modal = some "add") state
    let answered := site.respond backend request state
    answered.1.status = 200 ∧ answered.2 = once.2 ∧
      (noticeMessage? query.notice = none → answered.1.body = once.1) ∧
      ∀ message, noticeMessage? query.notice = some message →
        ∃ above below,
          once.1 = above ++ "<main class=\"container\">\n    " ++ below ∧
          answered.1.body =
            above ++ "<main class=\"container\">\n    " ++ Page.flashBlock [message] ++ below := by
  intro query once answered
  have shown : once = _ := site.renderAt_eq backend state _ _
  have response : answered = _ := site.respond_of_asksPage backend state asks
  rw [shown, response]
  refine ⟨rfl, rfl, ?_, ?_⟩
  · intro silent
    exact congrArg Panel.render (site.queryPanel_of_silent silent)
  · intro message told
    rcases Page.exists_around_flashBlock (site.flashes_panelAt (backend.list state).1
      (Tab.ofSlug query.tab) (query.modal = some "add")) with ⟨above, below, plain, around⟩
    refine ⟨above, below, plain, ?_⟩
    rw [← around [message], site.queryPanel_eq, told]
    rfl

end Site

end AccountPanel
