import AccountPanel.Proofs.Page.Content
import AccountPanel.Proofs.Site.Answer

/-!
# The page of the keys

The two addresses that a change redirects to show the tab of the keys with what the backend lists,
without a modal, and with the message of the notice in the address.
-/

namespace AccountPanel

open Http Markup

namespace Page.Reading

/-- What a page on the tab of the keys shows: the keys, the row that stands for none, whether the
modal is there, and the messages. -/
structure Shows (page : List Piece) (keys : List Key) (opened : Bool) (messages : List String) :
    Prop where
  label : chosenLabel page = "SSH Keys"
  rows : (rows page).map (·.key) = keys
  notes : emptyNotes page = if keys = [] then ["No SSH keys"] else []
  modal : (modalForm? page).isSome = opened
  flashes : flashes page = messages

theorem shows_render (panel : Panel) (chosen : panel.activeTab = .keys) :
    Shows (Markup.read panel.render) panel.keys panel.modal.isSome panel.flashes where
  label := by
    rw [chosenLabel_render, chosen]
    rfl
  rows := by
    rw [rows_render panel chosen, List.map_map]
    exact List.map_id panel.keys
  notes := emptyNotes_render panel chosen
  modal := by
    rw [read_render, modalForm?_tokens]
    change (if panel.activeTab = .keys then panel.modal.map _ else none).isSome = _
    rw [if_pos chosen, Option.isSome_map]
  flashes := by
    rw [read_render, flashes_tokens]
    rfl

end Page.Reading

namespace Site

variable {σ : Type} (site : Site) (backend : Backend σ) (state : σ)

/-- The panel on the tab of the keys with the modal closed. -/
def keysPanel (listed : Option (List Key)) (messages : List String) : Panel :=
  { site.panel listed with activeTab := .keys, flashes := messages }

/-- The address without a notice shows no message. -/
theorem respond_keys :
    site.respond backend (Request.get "/account?tab=ssh-keys") state =
      ((Answer.page (site.keysPanel (backend.list state).1 []).render).response,
        (backend.list state).2) := by
  have path : (Request.get "/account?tab=ssh-keys").path = "/account" := by decide
  have panel : ∀ listed, site.queryPanel listed ⟨some "ssh-keys", none, none⟩ =
      site.keysPanel listed [] := by
    intro listed
    have tab : Tab.ofSlug (some "ssh-keys") = .keys := by decide
    simp only [queryPanel, tab]
    rfl
  rw [site.respond_get backend state path readPageQuery_keys, panel]

/-- The address with the notice of a refused deletion shows its message. -/
theorem respond_deleteFailed :
    site.respond backend (Request.get "/account?tab=ssh-keys&notice=delete-failed") state =
      ((Answer.page (site.keysPanel (backend.list state).1
          ["Could not delete the SSH key"]).render).response,
        (backend.list state).2) := by
  have path : (Request.get "/account?tab=ssh-keys&notice=delete-failed").path = "/account" := by
    decide
  have panel : ∀ listed, site.queryPanel listed ⟨some "ssh-keys", none, some deleteFailed⟩ =
      site.keysPanel listed ["Could not delete the SSH key"] := by
    intro listed
    have tab : Tab.ofSlug (some "ssh-keys") = .keys := by decide
    simp only [queryPanel, tab]
    rfl
  rw [site.respond_get backend state path readPageQuery_deleteFailed, panel]

end Site

end AccountPanel
