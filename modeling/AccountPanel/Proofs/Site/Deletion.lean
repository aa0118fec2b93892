import AccountPanel.Proofs.Site.KeysPage
import AccountPanel.Proofs.Store

/-!
# Deleting through the page

The form in a row of the table deletes the key of that row. It is read off the page and sent in any
written form, so what the key holds has to come through the page and through the body unchanged.
-/

namespace AccountPanel

open Http Page

namespace Site

variable (site : Site)

/-- Submitting the form of a key takes the first record equal to the key out of the store. -/
theorem respond_deleteForm {request : Request} {key : Key} (store : Store)
    (submits : request.Submits (deleteForm "/account/ssh-keys/delete" key))
    (fits : request.body.length ≤ bodyLimit) (member : key ∈ store.keys) :
    (site.respond Backend.inMemory request store).1.RedirectsTo "/account?tab=ssh-keys" ∧
      ∃ front behind, store.keys = front ++ key :: behind ∧ key ∉ front ∧
        (site.respond Backend.inMemory request store).2 = ⟨front ++ behind⟩ := by
  rcases store.delete_of_mem member with ⟨front, behind, split, absent, deleted⟩
  have change : Backend.inMemory.change (.delete key) store = (true, ⟨front ++ behind⟩) := deleted
  rw [site.respond_of_submitsKey _ _ (submits.submitsKey fits rfl rfl), change]
  exact ⟨redirectsTo_seeOther _, front, behind, split, absent, rfl⟩

/-- Every row of the page has one form, and submitting the form of a row in whichever written form
removes the first record equal to the key of the row and nothing else. -/
theorem delete_through_row (keys : List Key) (index : Nat) (inside : index < keys.length) :
    let page := site.respond Backend.inMemory (Request.get "/account?tab=ssh-keys") ⟨keys⟩
    let rows := Reading.rows (Markup.read page.1.body)
    page.1.status = 200 ∧ page.2 = ⟨keys⟩ ∧ rows.length = keys.length ∧
      ∃ row form, rows[index]? = some row ∧ row.forms = [form] ∧
        form.action = "/account/ssh-keys/delete" ∧
        form.fields = [("name", keys[index].name), ("key", keys[index].text)] ∧
        ∀ request : Request, request.Submits form → request.body.length ≤ 2097152 →
          (site.respond Backend.inMemory request page.2).1.RedirectsTo
              "/account?tab=ssh-keys" ∧
            ∃ front behind, keys = front ++ keys[index] :: behind ∧ keys[index] ∉ front ∧
              (site.respond Backend.inMemory request page.2).2 = ⟨front ++ behind⟩ := by
  have rows := rows_render (site.keysPanel (some keys) []) rfl
  change _ = keys.map (rowOf "/account/ssh-keys/delete") at rows
  have shown : site.respond Backend.inMemory (Request.get "/account?tab=ssh-keys") ⟨keys⟩ =
      ((Answer.page (site.keysPanel (some keys) []).render).response, ⟨keys⟩) :=
    site.respond_keys Backend.inMemory ⟨keys⟩
  rw [shown]
  refine ⟨rfl, rfl, ?_, rowOf "/account/ssh-keys/delete" keys[index],
    deleteForm "/account/ssh-keys/delete" keys[index], ?_, rfl, rfl, rfl, ?_⟩
  · change (Reading.rows (Markup.read (site.keysPanel (some keys) []).render)).length = _
    rw [rows, List.length_map]
  · change (Reading.rows (Markup.read (site.keysPanel (some keys) []).render))[index]? = _
    rw [rows, List.getElem?_map, List.getElem?_eq_getElem inside]
    rfl
  · intro request submits fits
    exact site.respond_deleteForm ⟨keys⟩ submits fits (List.getElem_mem inside)

/-- The form in the last row deletes the first of two equal records. -/
theorem delete_through_row_of_repeated :
    let site : Site := { profile := { username := "<b>&amp;" } }
    let key : Key := ⟨"\"a\" & 'b' <td>", "ssh-rsa A+B/=%41 &lt;\r\n</form>é"⟩
    let other : Key := ⟨"a", ""⟩
    let page := site.respond Backend.inMemory (Request.get "/account?tab=ssh-keys")
      ⟨[key, other, key]⟩
    ∃ row form, (Reading.rows (Markup.read page.1.body))[2]? = some row ∧ row.forms = [form] ∧
      form.submission.body.length ≤ 2097152 ∧
        (site.respond Backend.inMemory form.submission page.2).2 = ⟨[other, key]⟩ := by
  intro site key other page
  obtain ⟨-, -, -, row, form, found, forms, -, fields, deletes⟩ :=
    site.delete_through_row [key, other, key] 2 (by decide)
  have fits : form.submission.body.length ≤ 2097152 := by
    change (Text.Utf8.encode (Urlencoded.encode form.fields).toList).length ≤ 2097152
    rw [fields]
    decide
  obtain ⟨-, front, behind, split, absent, after⟩ :=
    deletes form.submission (Request.submits_submission form) fits
  refine ⟨row, form, found, forms, fits, ?_⟩
  cases front with
  | nil =>
      cases split
      exact after
  | cons first front =>
      have same : key = first := (List.cons.inj split).1
      exact (absent (same ▸ List.mem_cons_self)).elim

end Site

end AccountPanel
