import AccountPanel.Proofs.Page.Content
import AccountPanel.Proofs.Site.AccountPage

/-!
# Links to the account page

A link to the account page names a tab and a notice. Following it asks for that tab and that notice,
whatever text the notice is, because what a query is written with is read back from it and none of
its characters has a meaning in an address.
-/

namespace AccountPanel

open Http Page

namespace Http.Request

variable {request : Request} {query : String}

/-- The path and the query of a target that starts with the address of the account page. -/
theorem path_and_query_of_account (target : request.target = "/account?" ++ query)
    (noFragment : '#' ∉ query.toList) :
    request.path = "/account" ∧ request.query = query.toList := by
  have characters : request.target.toList = "/account?".toList ++ query.toList := by
    rw [target, String.toList_append]
  have kept : ∀ character ∈ "/account?".toList ++ query.toList, (character != '#') = true := by
    intro character member
    rw [bne_iff_ne]
    rintro rfl
    rcases List.mem_append.mp member with path | asked
    · revert path
      decide
    · exact noFragment asked
  have location : request.location = "/account?".toList ++ query.toList := by
    rw [Request.location, characters, List.takeWhile_eq_self_iff.mpr kept]
    rfl
  rw [Request.path, Request.query, location]
  exact ⟨rfl, rfl⟩

end Http.Request

/-- The fields of a link to the account page. A notice without a text is left out. -/
def accountFields (tab : Tab) (notice : Option String) : List Urlencoded.Field :=
  ("tab", tab.slug) :: (notice.filter (! ·.isEmpty)).toList.map (("notice", ·))

variable (tab : Tab) (notice : Option String)

theorem accountUrl_eq :
    accountUrl tab notice = "/account?" ++ Urlencoded.encode (accountFields tab notice) := by
  have tabKept : tab.slug.isEmpty = false := by cases tab <;> decide
  rw [accountUrl, Urlencoded.query, accountFields]
  cases notice with
  | none => simp [tabKept]
  | some text =>
      cases empty : text.isEmpty <;> simp [tabKept, empty, Option.filter]

theorem readPageQuery_accountFields :
    readPageQuery (accountFields tab notice) =
      .ok ⟨some tab.slug, none, notice.filter (! ·.isEmpty)⟩ := by
  rw [accountFields]
  cases notice.filter (! ·.isEmpty) <;> rfl

theorem Tab.ofSlug_slug : Tab.ofSlug (some tab.slug) = tab := by
  cases tab <;> decide

theorem noticeMessage?_filter :
    noticeMessage? (notice.filter (! ·.isEmpty)) = noticeMessage? notice := by
  cases notice with
  | none => rfl
  | some text =>
      cases empty : text.isEmpty with
      | false => simp [Option.filter, empty]
      | true =>
          rw [String.isEmpty_iff.mp empty]
          decide

namespace Http.Request

variable {request : Request}

/-- A request for a link to the account page has the fields of the link. -/
theorem path_and_queryFields_of_accountUrl (target : request.target = accountUrl tab notice) :
    request.path = "/account" ∧ request.queryFields = accountFields tab notice := by
  rw [accountUrl_eq] at target
  have noFragment : '#' ∉ (Urlencoded.encode (accountFields tab notice)).toList := by
    intro member
    have writable := List.all_eq_true.mp (Urlencoded.all_isWritable_encode _) '#' member
    exact absurd writable (by decide)
  rcases path_and_query_of_account target noFragment with ⟨path, query⟩
  exact ⟨path, queryFields_of_query query⟩

end Http.Request

/-- A link to the account page has visible characters alone. -/
theorem all_isVisible_accountUrl :
    (accountUrl tab notice).toList.all Urlencoded.isVisible = true := by
  have path : "/account?".toList.all Urlencoded.isVisible = true := by decide
  rw [accountUrl_eq, String.toList_append, List.all_append, path,
    Urlencoded.all_isVisible_encode]
  rfl

/-- A link to the account page can be sent in a header. -/
theorem isReadableHeader_accountUrl : isReadableHeader (accountUrl tab notice) = true := by
  rw [isReadableHeader, List.all_eq_true]
  intro character member
  have visible := List.all_eq_true.mp (all_isVisible_accountUrl tab notice) character member
  rw [Urlencoded.isVisible, Bool.and_eq_true, decide_eq_true_iff, decide_eq_true_iff] at visible
  simp [Nat.le_of_lt visible.1, visible.2]

namespace Site

variable {σ : Type} (site : Site) (backend : Backend σ) (state : σ) {request : Request}

/-- The panel of a link: on its tab, below the message of its notice. -/
def linkedPanel (listed : Option (List Key)) : Panel :=
  { site.panel listed with activeTab := tab, flashes := (noticeMessage? notice).toList }

/-- A link leads to the page of its panel. -/
theorem respond_accountUrl (method : request.method = "GET")
    (target : request.target = accountUrl tab notice) :
    site.respond backend request state =
      ((Answer.page (site.linkedPanel tab notice (backend.list state).1).render).response,
        (backend.list state).2) := by
  rcases Request.path_and_queryFields_of_accountUrl tab notice target with ⟨path, fields⟩
  have asks : readPageQuery request.queryFields =
      .ok ⟨some tab.slug, none, notice.filter (! ·.isEmpty)⟩ := by
    rw [fields, readPageQuery_accountFields]
  rw [site.respond_of_query backend state method path asks, queryPanel]
  simp only [Tab.ofSlug_slug, noticeMessage?_filter]
  rfl

/-- What a query is written with is read back from it: the fields with a value, in their order. So
a link to the account page asks for its tab and its notice, and the page it leads to shows that tab
without the modal, below the message of that notice. -/
theorem links_read_back (fields : List Urlencoded.Field) (tab : Tab) (notice : Option String)
    (contentType : Option String) (body : List UInt8) :
    let query := Urlencoded.query fields
    let link := accountUrl tab notice
    let request : Request := ⟨"GET", link, contentType, body⟩
    let answered := site.respond backend request state
    let page := Markup.read answered.1.body
    Urlencoded.decode (Text.Utf8.encode query.toList) = fields.filter (! ·.2.isEmpty) ∧
      (∀ character ∈ query.toList,
        character.isAlphanum = true ∨ character ∈ ['-', '_', '.', '~', '%', '=', '&']) ∧
      (∀ character ∈ link.toList, 0x20 < character.toNat ∧ character.toNat < 0x7F) ∧
      isReadableHeader link = true ∧ request.path = "/account" ∧
      readPageQuery request.queryFields =
        .ok ⟨some tab.slug, none, notice.filter (! ·.isEmpty)⟩ ∧
      Tab.ofSlug (some tab.slug) = tab ∧
      answered.1.status = 200 ∧ Reading.chosenLabel page = tabLabel tab ∧
      Reading.modalForm? page = none ∧
      Reading.flashes page = (noticeMessage? notice).toList := by
  intro query link request answered page
  have target : request.target = accountUrl tab notice := rfl
  rcases Request.path_and_queryFields_of_accountUrl tab notice target with ⟨path, queryFields⟩
  have answer : answered =
      ((Answer.page (site.linkedPanel tab notice (backend.list state).1).render).response,
        (backend.list state).2) := site.respond_accountUrl tab notice backend state rfl target
  have shown : page = Markup.read (site.linkedPanel tab notice (backend.list state).1).render := by
    change Markup.read answered.1.body = _
    rw [answer]
    rfl
  refine ⟨Urlencoded.decode_query fields, ?_, ?_,
    isReadableHeader_accountUrl tab notice, path, ?_, Tab.ofSlug_slug tab, ?_, ?_, ?_, ?_⟩
  · intro character member
    have writable := List.all_eq_true.mp (Urlencoded.all_isWritable_encode _) character member
    simpa only [Urlencoded.isWritable, Bool.or_eq_true, List.contains_iff_mem] using writable
  · intro character member
    have visible := List.all_eq_true.mp (all_isVisible_accountUrl tab notice) character member
    simpa only [Urlencoded.isVisible, Bool.and_eq_true, decide_eq_true_iff] using visible
  · rw [queryFields, readPageQuery_accountFields]
  · rw [answer]
    rfl
  · rw [shown, chosenLabel_render]
    rfl
  · rw [shown, read_render, modalForm?_tokens]
    exact ite_self none
  · rw [shown, read_render, flashes_tokens]
    rfl

end Site

end AccountPanel
