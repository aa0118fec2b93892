import AccountPanel.Proofs.KeyFile
import AccountPanel.Proofs.Site.Journal

/-!
# Stored keys are tidy

Keys come into a store from a key file or from a draft. Both ways leave no blanks at the ends of
their texts, so names that are told apart by such blanks alone are never stored together, and a key
that came from a draft comes out of the form again as it is.
-/

namespace AccountPanel

open Http

/-- Both texts of a key are tidy. -/
def Key.isTidy (key : Key) : Bool := Text.isTidy key.name && Text.isTidy key.text

/-- A key with two texts that is read from a draft as it is. -/
structure Key.FromDraft (key : Key) : Prop where
  name : key.name ≠ ""
  text : key.text ≠ ""
  toKey : (Draft.ofKey key).toKey = .ok key

theorem Draft.isTidy_trimmed (draft : Draft) : draft.trimmed.isTidy = true := by
  rw [Key.isTidy, Bool.and_eq_true]
  exact ⟨Text.isTidy_trim draft.name, Text.isTidy_trim draft.text⟩

/-- A draft that is filled in stands for a key that stands for itself. -/
theorem Draft.fromDraft_trimmed {draft : Draft} (name : draft.trimmed.name ≠ "")
    (text : draft.trimmed.text ≠ "") : draft.trimmed.FromDraft where
  name := name
  text := text
  toKey := by
    have same : (Draft.ofKey draft.trimmed).trimmed = draft.trimmed := by
      simp only [Draft.ofKey, Draft.trimmed, Text.trim_trim]
    have filled : (Draft.ofKey draft.trimmed).isFilled = true := by
      rw [Draft.isFilled_iff, same]
      exact ⟨name, text⟩
    rw [Draft.toKey_of_filled _ filled, same]

theorem KeyFile.isTidy_singleLineKey (key : Key) : (singleLineKey key).isTidy = true := by
  rw [Key.isTidy, Bool.and_eq_true]
  exact ⟨isTidy_singleLine key.name, isTidy_singleLine key.text⟩

/-- Among tidy keys a name is met as often as its trimmed form. -/
theorem countP_trim_name {keys : List Key} (tidy : ∀ key ∈ keys, key.isTidy = true)
    (name : String) :
    keys.countP (Text.trim ·.name == name) = keys.countP (·.name == name) := by
  apply List.countP_congr
  intro key member
  have ends := tidy key member
  rw [Key.isTidy, Bool.and_eq_true] at ends
  rw [Text.trim_of_isTidy ends.1]

namespace Site

variable (site : Site)

/-- From any key file and by any requests, only keys with tidy texts come into a store. Those that
were not loaded stand behind the others; each has two texts and is read from a draft as it is. And
no name is met more often, blanks at its ends apart, than among the loaded keys, or once. -/
theorem run_keeps_tidy {read : Files.Reader} {path : String} {keys : List Key}
    (loaded : KeyFile.loadFile read path = .ok keys) (requests : List Request) :
    let store := (site.respondAll Backend.inMemory requests ⟨keys⟩).2
    (∀ key ∈ store.keys, Text.isTidy key.name = true ∧ Text.isTidy key.text = true ∧
        (key ∉ keys → key.FromDraft)) ∧
      (∃ kept added, store.keys = kept ++ added ∧ kept.Sublist keys ∧
        ∀ key ∈ added, key.FromDraft) ∧
      ∀ name, store.keys.countP (Text.trim ·.name == name) ≤
        max 1 (keys.countP (Text.trim ·.name == name)) := by
  intro store
  have first : ∀ key ∈ keys, key.isTidy = true := by
    intro key member
    rcases KeyFile.exists_singleLineKey loaded key member with ⟨written, rfl⟩
    exact KeyFile.isTidy_singleLineKey written
  rcases site.exists_kept_added requests ⟨keys⟩ with ⟨kept, added, split, sublist, given⟩
  have fromDraft : ∀ key ∈ added, key.FromDraft := by
    intro key member
    rcases given key member with ⟨exchange, -, draft, adds, rfl⟩
    exact Draft.fromDraft_trimmed adds.name adds.text
  have stored : ∀ key ∈ store.keys, key ∈ keys ∨ key ∈ added := by
    intro key member
    have parts : key ∈ kept ++ added := split ▸ member
    rcases List.mem_append.mp parts with old | new
    · exact .inl (sublist.subset old)
    · exact .inr new
  have tidy : ∀ key ∈ store.keys, key.isTidy = true := by
    intro key member
    rcases stored key member with old | new
    · exact first key old
    · rcases given key new with ⟨exchange, -, draft, -, rfl⟩
      exact draft.isTidy_trimmed
  refine ⟨?_, ⟨kept, added, split, sublist, fromDraft⟩, ?_⟩
  · intro key member
    have ends := tidy key member
    rw [Key.isTidy, Bool.and_eq_true] at ends
    exact ⟨ends.1, ends.2, fun notLoaded =>
      fromDraft key ((stored key member).resolve_left notLoaded)⟩
  · intro name
    rcases site.exists_journal requests ⟨keys⟩ with ⟨entries, journal, -⟩
    rw [countP_trim_name tidy, countP_trim_name first]
    exact journal.countP_name_le name

/-- A key file with a name that comes twice and a key without texts, and a draft with blanks around
a name that is new. -/
theorem run_keeps_tidy_of_repeated :
    let site : Site := { profile := {} }
    let read : Files.Reader := fun _ =>
      .ok (Text.Utf8.encode
        "[[\" ci\\u2003\\n\", \"ssh-rsa A\\r\\nB\"], [\"\", \" \"], [\"ci\", \"C\"]]".toList)
    let keys : List Key := [⟨"ci", "ssh-rsa AB"⟩, ⟨"", ""⟩, ⟨"ci", "C"⟩]
    let addition : Page.Form := ⟨"/account/ssh-keys", [("name", "\u2003desk\n"), ("key", "D ")]⟩
    let store := (site.respondAll Backend.inMemory [addition.submission] ⟨keys⟩).2
    KeyFile.loadFile read "keys.json" = .ok keys ∧ store.keys = keys ++ [⟨"desk", "D"⟩] ∧
      Key.FromDraft ⟨"desk", "D"⟩ ∧ store.keys.countP (Text.trim ·.name == "ci") ≤ 2 ∧
        store.keys.countP (Text.trim ·.name == "desk") ≤ 1 := by
  intro site read keys addition store
  have loaded : KeyFile.loadFile read "keys.json" = .ok keys := by decide +kernel
  have stored : store.keys = keys ++ [⟨"desk", "D"⟩] := by decide +kernel
  have told := site.run_keeps_tidy loaded [addition.submission]
  have last : (⟨"desk", "D"⟩ : Key) ∈ store.keys := by
    rw [stored]
    exact List.mem_append_right keys List.mem_cons_self
  refine ⟨loaded, stored, (told.1 _ last).2.2 (by decide), ?_, ?_⟩
  · exact told.2.2 "ci"
  · exact told.2.2 "desk"

end Site

end AccountPanel
