import AccountPanel.Proofs.Page.Content
import AccountPanel.Proofs.Site.Answer
import AccountPanel.Proofs.Store

/-!
# Submitting a refused form again

A refused draft is shown again in one of two ways: as it was typed if a text is blank, and without
the blanks at its ends if its name is in use. What is shown would be shown as it is, so submitting
the form of the page changes neither the page nor the store, however often it is done.
-/

namespace AccountPanel

open Http Page

/-- How a store has a refused draft shown again. -/
inductive Store.ShowsAgain (store : Store) : Draft → Draft → Prop where
  /-- A draft that is not filled in is shown as it was typed. -/
  | unfilled {draft : Draft} : draft.isFilled = false → store.ShowsAgain draft draft
  /-- A draft whose name is in use is shown as the key that it stands for. -/
  | taken {draft : Draft} : draft.isFilled = true → store.hasName draft.trimmed.name = true →
      store.ShowsAgain draft (.ofKey draft.trimmed)

namespace Store.ShowsAgain

variable {store : Store} {draft shown : Draft}

/-- What is shown of a draft is shown as it is. -/
theorem again (shows : store.ShowsAgain draft shown) : store.ShowsAgain shown shown := by
  cases shows with
  | unfilled unfilled => exact .unfilled unfilled
  | taken filled used =>
      have kept := draft.trimmed_ofKey_trimmed
      have showsKey : store.ShowsAgain (.ofKey draft.trimmed)
          (.ofKey (Draft.ofKey draft.trimmed).trimmed) := by
        apply taken
        · rw [Draft.isFilled_ofKey_trimmed, filled]
        · rw [kept, used]
      rwa [kept] at showsKey

end Store.ShowsAgain

/-- Does the response show a refused form? -/
structure Http.Response.ShowsForm (response : Response) : Prop where
  status : response.status = 422
  contentType : response.headers.lookup "content-type" = some "text/html; charset=utf-8"

namespace Site

variable (site : Site) {store : Store} {request : Request} {draft shown : Draft}

/-- The panel of a refused draft, by what is shown of it. -/
def refusedPanel (listed : Option (List Key)) (shown : Draft) : Panel :=
  site.formPanel listed ⟨shown, shown.errors⟩
    (if shown.isFilled then ["Could not add the SSH key"] else [])

/-- The response to a refused draft depends on what is shown of it alone, and the store stays as it
is. -/
theorem respond_of_showsAgain (submits : request.SubmitsDraft draft)
    (shows : store.ShowsAgain draft shown) :
    site.respond Backend.inMemory request store =
      ((Answer.refusedForm (site.refusedPanel (some store.keys) shown).render).response,
        store) := by
  cases shows with
  | unfilled unfilled =>
      rw [site.respond_of_unfilled _ _ submits unfilled, refusedPanel, unfilled]
      rfl
  | taken filled used =>
      have refused : Backend.inMemory.change (.add draft.trimmed) store = (false, store) :=
        store.add_of_taken (store.hasName_iff.mp used)
      have shownFilled := draft.isFilled_ofKey_trimmed.trans filled
      have listing : Backend.inMemory.list store = (some store.keys, store) := rfl
      rw [site.respond_of_filled _ _ submits filled, listing, refused, refusedPanel, shownFilled,
        Draft.errors_of_filled shownFilled]
      rfl

/-- A form is shown again in response to a refused draft alone. -/
theorem exists_showsAgain (method : request.method = "POST")
    (path : request.path = "/account/ssh-keys")
    (shows : (site.respond Backend.inMemory request store).1.ShowsForm) :
    ∃ draft shown, request.SubmitsDraft draft ∧ store.ShowsAgain draft shown := by
  cases decoded : request.draft with
  | error cause =>
      have plain := shows.contentType
      rw [site.respond_of_method _ _ (by simp [method]), site.answer_at_addKey _ method path,
        decoded] at plain
      change some "text/plain; charset=utf-8" = some "text/html; charset=utf-8" at plain
      exact absurd plain (by decide)
  | ok draft =>
      have submits : request.SubmitsDraft draft := ⟨method, path, decoded⟩
      cases filled : draft.isFilled with
      | false => exact ⟨draft, draft, submits, .unfilled filled⟩
      | true =>
          cases used : store.hasName draft.trimmed.name with
          | true => exact ⟨draft, _, submits, .taken filled used⟩
          | false =>
              have added : (Backend.inMemory.change (.add draft.trimmed) store).1 = true := by
                change (store.add draft.trimmed).1 = true
                rw [Store.add, used]
                rfl
              have listing : Backend.inMemory.list store = (some store.keys, store) := rfl
              have redirected := shows.status
              rw [site.respond_of_filled _ _ submits filled, listing, added] at redirected
              cases redirected

/-- The forms of the page of a refused draft: one for each row, and one with what is shown. -/
theorem among_refusedPanel (keys : List Key) (shown : Draft) :
    Form.among (Markup.read (site.refusedPanel (some keys) shown).render) =
      keys.map (deleteForm "/account/ssh-keys/delete") ++
        [draftForm "/account/ssh-keys" shown] := by
  rw [read_render, among_tokens]
  rfl

/-- Of these forms one goes to the address that adds keys. -/
theorem filter_among_refusedPanel (keys : List Key) (shown : Draft) :
    (Form.among (Markup.read (site.refusedPanel (some keys) shown).render)).filter
        (·.action == "/account/ssh-keys") = [draftForm "/account/ssh-keys" shown] := by
  have elsewhere : (keys.map (deleteForm "/account/ssh-keys/delete")).filter
      (·.action == "/account/ssh-keys") = [] := by
    rw [List.filter_map, List.map_eq_nil_iff, List.filter_eq_nil_iff]
    intro key _
    change ¬ ("/account/ssh-keys/delete" == "/account/ssh-keys") = true
    decide
  rw [among_refusedPanel, List.filter_append, elsewhere]
  rfl

/-- A form that was shown again is a fixed point of its submission: whoever reads it off the page
and submits it, in whichever written form, gets the same response, and the store is what it was
before either request. -/
theorem refused_form_is_fixed (keys : List Key) (method : request.method = "POST")
    (path : request.path = "/account/ssh-keys") :
    let answered := site.respond Backend.inMemory request ⟨keys⟩
    answered.1.ShowsForm →
      answered.2 = ⟨keys⟩ ∧
        ∃ draft shown, request.SubmitsDraft draft ∧ Store.ShowsAgain ⟨keys⟩ draft shown ∧
          ∃ form, (Form.among (Markup.read answered.1.body)).filter
              (·.action == "/account/ssh-keys") = [form] ∧
            form.fields = [("name", shown.name), ("key", shown.text)] ∧
            ∀ again : Request, again.Submits form → again.body.length ≤ 2097152 →
              site.respond Backend.inMemory again answered.2 = answered := by
  intro answered shows
  obtain ⟨draft, shown, submits, showsAgain⟩ := site.exists_showsAgain method path shows
  have first : answered = _ := site.respond_of_showsAgain submits showsAgain
  rw [first]
  refine ⟨rfl, draft, shown, submits, showsAgain, draftForm "/account/ssh-keys" shown,
    site.filter_among_refusedPanel keys shown, rfl, ?_⟩
  intro again resubmits fits
  exact site.respond_of_showsAgain (resubmits.submitsDraft fits rfl rfl) showsAgain.again

/-- A key under a name in use is shown without its blanks, with all its markup. -/
theorem refused_form_is_fixed_of_taken :
    let site : Site := { profile := { username := "<b>&amp;" } }
    let keys : List Key := [⟨"desk", "A"⟩]
    let request : Request :=
      ⟨"POST", "/account/ssh-keys", some formContentType,
        Text.Utf8.encode "x=&key=%0A%3C%2Ftextarea%3E%26lt%3B%C3%A9+&name=%C2%A0desk+".toList⟩
    let answered := site.respond Backend.inMemory request ⟨keys⟩
    ∃ form, (Form.among (Markup.read answered.1.body)).filter
        (·.action == "/account/ssh-keys") = [form] ∧
      form.fields = [("name", "desk"), ("key", "</textarea>&lt;é")] ∧
      site.respond Backend.inMemory form.submission ⟨keys⟩ = answered ∧ answered.2 = ⟨keys⟩ := by
  intro site keys request answered
  have submits : request.SubmitsDraft ⟨"\u00a0desk ", "\n</textarea>&lt;é "⟩ :=
    ⟨rfl, by decide, by decide +kernel⟩
  have taken : Store.ShowsAgain ⟨keys⟩ ⟨"\u00a0desk ", "\n</textarea>&lt;é "⟩ _ :=
    .taken (by decide) (by decide)
  have shows : answered.1.ShowsForm := by
    have first : answered = _ := site.respond_of_showsAgain submits taken
    rw [first]
    exact ⟨rfl, rfl⟩
  obtain ⟨kept, draft, shown, submitsSame, showsAgain, form, found, fields, fixed⟩ :=
    site.refused_form_is_fixed keys rfl submits.path shows
  cases submits.draft_eq submitsSame
  cases showsAgain with
  | unfilled unfilled => exact absurd unfilled (by decide)
  | taken =>
      have texts : form.fields = [("name", "desk"), ("key", "</textarea>&lt;é")] := by
        rw [fields]
        decide
      have fits : form.submission.body.length ≤ 2097152 := by
        change (Text.Utf8.encode (Urlencoded.encode form.fields).toList).length ≤ 2097152
        rw [texts]
        decide
      have again := fixed form.submission (Request.submits_submission form) fits
      rw [kept] at again
      exact ⟨form, found, texts, again, kept⟩

end Site

end AccountPanel
