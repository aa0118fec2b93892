import AccountPanel.Proofs.Page.Browser
import AccountPanel.Proofs.Site.Deletion
import AccountPanel.Proofs.Site.Journal

/-!
# Deleting in a browser

A browser changes line breaks on their way through a form, so the form of a row deletes its key only
if both texts of the key come back as they were. Loading a key file takes care of this and drops the
line breaks of its keys. Adding a draft does not: it trims the two texts and stores a lone line feed
inside as it is, and no browser can delete the row of such a key. This is a defect of adding beside
loading. It takes a draft that no browser sends, as texts that a browser has sent keep their line
breaks.
-/

namespace AccountPanel

open Http Page Browser

/-- Both texts of a key come back from a browser as they were. -/
def Key.ComesBack (key : Key) : Prop := returned key.name = key.name ∧ returned key.text = key.text

/-- Both texts of a draft come back from a browser as they were. -/
def Draft.ComesBack (draft : Draft) : Prop :=
  returned draft.name = draft.name ∧ returned draft.text = draft.text

theorem Key.comesBack_iff (key : Key) :
    key.ComesBack ↔ Paired key.name.toList ∧ Paired key.text.toList := by
  rw [ComesBack, returned_eq_self_iff, returned_eq_self_iff]

theorem KeyFile.comesBack_singleLineKey (key : Key) : (singleLineKey key).ComesBack := by
  rw [Key.comesBack_iff]
  constructor
  · exact paired_of_forall fun character => isLineBreak_of_mem_singleLine
  · exact paired_of_forall fun character => isLineBreak_of_mem_singleLine

theorem Draft.ComesBack.trimmed {draft : Draft} (comesBack : draft.ComesBack) :
    draft.trimmed.ComesBack := by
  rw [ComesBack, returned_eq_self_iff, returned_eq_self_iff] at comesBack
  rw [Key.comesBack_iff]
  exact ⟨comesBack.1.trim, comesBack.2.trim⟩

/-- For a key that comes back a browser sends its two texts. -/
theorem Key.ComesBack.posted_deleteForm {key : Key} (comesBack : key.ComesBack) (action : String) :
    posted (deleteForm action key) = [("name", key.name), ("key", key.text)] := by
  have labels : returned "name" = "name" ∧ returned "key" = "key" := by decide
  change [(returned "name", returned key.name), (returned "key", returned key.text)] = _
  rw [labels.1, labels.2, comesBack.1, comesBack.2]

namespace Site

variable (site : Site)

/-- From any key file and by any requests, a stored key comes back from a browser exactly if
carriage returns and line feeds are paired in it. Every stored key does, unless an exchange added
it from a draft that does not come back, and no browser sends such a draft. For a key that comes
back, what a browser sends for the form in its row are the texts of the key, and this deletes the
first record equal to it. A row that a browser cannot delete is a defect of adding: no key file
brings in a key that does not come back, while adding a draft lets it in. -/
theorem rows_delete_in_browser {read : Files.Reader} {path : String} {keys : List Key}
    (loaded : KeyFile.loadFile read path = .ok keys) (requests : List Request) :
    let store := (site.respondAll Backend.inMemory requests ⟨keys⟩).2
    let page := site.respond Backend.inMemory (Request.get "/account?tab=ssh-keys") store
    (∀ key ∈ store.keys,
      (key.ComesBack ↔ Paired key.name.toList ∧ Paired key.text.toList) ∧
      (key.ComesBack ∨ ∃ exchange ∈ site.history Backend.inMemory requests ⟨keys⟩,
        ∃ draft, exchange.Adds draft ∧ draft.trimmed = key ∧ ¬ draft.ComesBack) ∧
      (key.ComesBack → ∃ row ∈ Reading.rows (Markup.read page.1.body), ∃ form,
        row.key = key ∧ row.forms = [form] ∧
          posted form = [("name", key.name), ("key", key.text)] ∧
          ∀ request : Request, request.Submits ⟨form.action, posted form⟩ →
            request.body.length ≤ bodyLimit →
            (site.respond Backend.inMemory request store).1.RedirectsTo "/account?tab=ssh-keys" ∧
              ∃ front behind, store.keys = front ++ key :: behind ∧ key ∉ front ∧
                (site.respond Backend.inMemory request store).2 = ⟨front ++ behind⟩)) ∧
      ∀ name text, Draft.ComesBack ⟨returned name, returned text⟩ := by
  intro store page
  refine ⟨?_, fun name text => ⟨returned_returned name, returned_returned text⟩⟩
  intro key member
  refine ⟨key.comesBack_iff, ?_, ?_⟩
  · rcases site.exists_kept_added requests ⟨keys⟩ with ⟨kept, added, split, sublist, given⟩
    have parts : key ∈ kept ++ added := split ▸ member
    rcases List.mem_append.mp parts with old | new
    · rcases KeyFile.exists_singleLineKey loaded key (sublist.subset old) with ⟨written, rfl⟩
      exact .inl (KeyFile.comesBack_singleLineKey written)
    · rcases given key new with ⟨exchange, found, draft, adds, rfl⟩
      by_cases comesBack : draft.ComesBack
      · exact .inl comesBack.trimmed
      · exact .inr ⟨exchange, found, draft, adds, rfl, comesBack⟩
  · intro comesBack
    have sends := comesBack.posted_deleteForm "/account/ssh-keys/delete"
    have rows : Reading.rows (Markup.read page.1.body) =
        store.keys.map (rowOf "/account/ssh-keys/delete") := by
      have shown := site.respond_keys Backend.inMemory store
      change Reading.rows (Markup.read (site.respond _ _ store).1.body) = _
      rw [shown]
      exact rows_render (site.keysPanel (some store.keys) []) rfl
    refine ⟨rowOf "/account/ssh-keys/delete" key, ?_,
      deleteForm "/account/ssh-keys/delete" key, rfl, rfl, sends, ?_⟩
    · rw [rows]
      exact List.mem_map_of_mem member
    · intro request submits fits
      rw [sends] at submits
      exact site.respond_deleteForm store submits fits member

/-- A key of two lines that was pasted into the form has a row that deletes it. -/
theorem rows_delete_in_browser_of_pasted :
    let site : Site := { profile := {} }
    let read : Files.Reader := fun _ =>
      .ok (Text.Utf8.encode "[\x7b\"name\": \"wrapped\\n\", \"key\": \"A\\r\\nB\"\x7d]".toList)
    let addition : Form :=
      ⟨"/account/ssh-keys", [("name", " desk"), ("key", returned "C\nD\n")]⟩
    let key : Key := ⟨"desk", "C\r\nD"⟩
    let store :=
      (site.respondAll Backend.inMemory [addition.submission] ⟨[⟨"wrapped", "AB"⟩]⟩).2
    let page := site.respond Backend.inMemory (Request.get "/account?tab=ssh-keys") store
    KeyFile.loadFile read "keys.json" = .ok [⟨"wrapped", "AB"⟩] ∧ key ∈ store.keys ∧
      ∃ row ∈ Reading.rows (Markup.read page.1.body), ∃ form,
        row.forms = [form] ∧ posted form = [("name", "desk"), ("key", "C\r\nD")] := by
  intro site read addition key store page
  have loaded : KeyFile.loadFile read "keys.json" = .ok [⟨"wrapped", "AB"⟩] := by decide +kernel
  have member : key ∈ store.keys := by decide +kernel
  have told := (site.rows_delete_in_browser loaded [addition.submission]).1 key member
  have comesBack : key.ComesBack := ⟨by decide, by decide⟩
  rcases told.2.2 comesBack with ⟨row, found, form, -, forms, sends, -⟩
  exact ⟨loaded, member, row, found, form, forms, sends⟩

/-- A defect of adding: a draft with a line feed alone is stored as it is, where the same text in a
key file would lose the line feed. The key does not come back, and what a browser sends for its row
is refused. -/
theorem lone_line_feed_not_returned :
    let site : Site := { profile := {} }
    let read : Files.Reader := fun _ => .ok (Text.Utf8.encode "[]".toList)
    let request : Request :=
      ⟨"POST", "/account/ssh-keys", some formContentType,
        Text.Utf8.encode "name=a%0Ab&key=k".toList⟩
    let key : Key := ⟨"a\nb", "k"⟩
    let store := (site.respondAll Backend.inMemory [request] ⟨[]⟩).2
    let deletion : Form :=
      ⟨"/account/ssh-keys/delete", posted (deleteForm "/account/ssh-keys/delete" key)⟩
    KeyFile.loadFile read "keys.json" = .ok [] ∧ store = ⟨[key]⟩ ∧
      returned key.name = "a\r\nb" ∧ ¬ key.ComesBack ∧
        (site.respond Backend.inMemory deletion.submission store).1.RedirectsTo
          "/account?tab=ssh-keys&notice=delete-failed" := by
  refine ⟨by decide +kernel, by decide +kernel, by decide, ?_, by decide +kernel, by decide +kernel⟩
  rintro ⟨name, -⟩
  revert name
  decide

end Site

end AccountPanel
