import AccountPanel.Proofs.Store

/-!
# Accounting for a run

The answers of a run and what is stored at its end, each told by the other: which changes are taken
is decided by what is stored when their turn comes, and what is stored at the end is accounted for
by the changes that were taken.
-/

namespace AccountPanel.Store

variable (store : Store)

/-- Can a change take effect? A key can be added if no stored key has its name, and taken out if it
is stored. -/
def Accepts (store : Store) : Change → Prop
  | .add key => ∀ stored ∈ store.keys, stored.name ≠ key.name
  | .delete key => key ∈ store.keys

/-- A change takes effect exactly if it can. -/
theorem apply_eq_true_iff (change : Change) :
    (store.apply change).1 = true ↔ store.Accepts change := by
  cases change with
  | add key =>
      constructor
      · intro accepted stored member same
        rw [apply, store.add_of_taken ⟨stored, member, same⟩] at accepted
        cases accepted
      · intro fresh
        rw [apply, store.add_of_fresh fresh]
  | delete key =>
      constructor
      · intro accepted
        apply Classical.byContradiction
        intro absent
        rw [apply, store.delete_of_notMem absent] at accepted
        cases accepted
      · intro member
        rcases store.delete_of_mem member with ⟨front, behind, -, -, deleted⟩
        rw [apply, deleted]

/-- To take out a key that was just added leaves the store as it was before. -/
theorem delete_of_added {key : Key} (accepted : store.Accepts (.add key)) :
    (store.apply (.add key)).2.apply (.delete key) = (true, store) := by
  have absent : key ∉ store.keys := fun member => accepted key member rfl
  have stored : key ∈ store.keys ++ [key] := List.mem_append_right _ List.mem_cons_self
  have left : (store.keys ++ [key]).erase key = store.keys := by
    rw [List.erase_append_right _ absent, List.erase_cons_head, List.append_nil]
  rw [apply, store.add_of_fresh accepted, apply, delete,
    if_pos (List.contains_iff_mem.mpr stored), left]

/-! ## The places in a run -/

theorem run_cons (change : Change) (changes : List Change) :
    store.run (change :: changes) =
      ((store.apply change).1 :: ((store.apply change).2.run changes).1,
        ((store.apply change).2.run changes).2) := rfl

/-- A run goes on where its first part has ended. -/
theorem run_append (front behind : List Change) :
    store.run (front ++ behind) =
      ((store.run front).1 ++ ((store.run front).2.run behind).1,
        ((store.run front).2.run behind).2) := by
  induction front generalizing store with
  | nil => rfl
  | cons change front ih =>
      rw [List.cons_append, run_cons, ih, run_cons, List.cons_append]

@[simp] theorem length_run (changes : List Change) :
    (store.run changes).1.length = changes.length := by
  induction changes generalizing store with
  | nil => rfl
  | cons change changes ih => rw [run_cons, List.length_cons, ih, List.length_cons]

/-! ## The journal of a run -/

/-- The changes of a run with the answers to them. -/
def journal (changes : List Change) : List Entry := changes.zipWith Entry.mk (store.run changes).1

theorem journal_cons (change : Change) (changes : List Change) :
    store.journal (change :: changes) =
      store.entry change :: (store.apply change).2.journal changes := rfl

@[simp] theorem length_journal (changes : List Change) :
    (store.journal changes).length = changes.length := by
  rw [journal, List.length_zipWith, length_run, Nat.min_self]

theorem journal_append (front behind : List Change) :
    store.journal (front ++ behind) =
      store.journal front ++ (store.run front).2.journal behind := by
  rw [journal, run_append, List.zipWith_append (store.length_run front).symm, journal, journal]

theorem journal_run (changes : List Change) :
    Journal store (store.journal changes) (store.run changes).2 := by
  induction changes generalizing store with
  | nil => exact .nil store
  | cons change changes ih => exact .cons change (ih (store.apply change).2)

/-- The entry of a change is made by the store that the changes before it have left. -/
theorem journal_getElem? (front : List Change) (change : Change) (behind : List Change) :
    (store.journal (front ++ change :: behind))[front.length]? =
      some ((store.run front).2.entry change) := by
  have start : (store.journal front).length = front.length := store.length_journal front
  rw [journal_append, List.getElem?_append_right (Nat.le_of_eq start), start, Nat.sub_self,
    journal_cons, List.getElem?_cons_zero]

/-- What a run does to a store is told by its answers. Each key is stored as often as at first, once
more for each accepted add and once less for each accepted deletion; what is stored is left of the
first keys and of the added ones, in this order. An answer tells whether the change could take
effect when its turn came. At no time a name comes more often than at first, unless once. To take
out a key right behind its accepted add leaves nothing of either. -/
theorem run_accounts_for_keys (changes : List Change) :
    let entries := store.journal changes
    let last := (store.run changes).2
    (∀ key, last.keys.count key + entries.count ⟨.delete key, true⟩ =
      store.keys.count key + entries.count ⟨.add key, true⟩) ∧
      last.keys.Sublist (store.keys ++ addedKeys entries) ∧
      (∀ front change behind, changes = front ++ change :: behind →
        ∃ accepted, entries[front.length]? = some ⟨change, accepted⟩ ∧
          (accepted = true ↔ (store.run front).2.Accepts change)) ∧
      (∀ count name,
        (store.run (changes.take count)).2.keys.countP (·.name == name) ≤
          max 1 (store.keys.countP (·.name == name))) ∧
      ∀ front key behind, changes = front ++ .add key :: .delete key :: behind →
        entries[front.length]? = some ⟨.add key, true⟩ →
          entries[front.length + 1]? = some ⟨.delete key, true⟩ ∧
            (store.run (front ++ [.add key, .delete key])).2 = (store.run front).2 := by
  intro entries last
  have journal : Journal store entries last := store.journal_run changes
  refine ⟨journal.count_keys, journal.keys_sublist, ?_, ?_, ?_⟩
  · rintro front change behind rfl
    exact ⟨_, store.journal_getElem? front change behind,
      (store.run front).2.apply_eq_true_iff change⟩
  · intro count name
    exact (store.journal_run (changes.take count)).countP_name_le name
  · rintro front key behind rfl added
    have entry := (store.journal_getElem? front (.add key) (.delete key :: behind)).symm.trans added
    have accepted : (store.run front).2.Accepts (.add key) :=
      ((store.run front).2.apply_eq_true_iff (.add key)).mp
        (congrArg Entry.accepted (Option.some.inj entry))
    have restored := (store.run front).2.delete_of_added accepted
    have before :
        (store.run (front ++ [.add key])).2 = ((store.run front).2.apply (.add key)).2 := by
      rw [run_append]
      rfl
    constructor
    · have next := store.journal_getElem? (front ++ [.add key]) (.delete key) behind
      rw [before, Store.entry, restored, List.append_assoc, List.length_append] at next
      exact next
    · rw [run_append, run_cons, run_cons, restored]
      rfl

/-- A record that is stored twice is taken out once, a name that is stored twice is refused, and a
new key comes and goes. -/
theorem run_accounts_for_keys_of_repeated :
    let store : Store := ⟨[⟨"ci", "A"⟩, ⟨"desk", "B"⟩, ⟨"ci", "A"⟩, ⟨"ci", "C"⟩]⟩
    let front : List Change := [.delete ⟨"ci", "A"⟩, .add ⟨"ci", "D"⟩]
    let changes := front ++ [.add ⟨"lab", "E"⟩, .delete ⟨"lab", "E"⟩, .delete ⟨"ci", "E"⟩]
    (store.journal changes)[front.length]? = some ⟨.add ⟨"lab", "E"⟩, true⟩ ∧
      (store.run (front ++ [.add ⟨"lab", "E"⟩, .delete ⟨"lab", "E"⟩])).2 =
        ⟨[⟨"desk", "B"⟩, ⟨"ci", "A"⟩, ⟨"ci", "C"⟩]⟩ ∧
      (store.run changes).2.keys.count ⟨"ci", "A"⟩ + 1 = 2 ∧
      (store.run changes).2.keys.countP (·.name == "ci") ≤ 3 ∧
      ¬ (store.run [.delete ⟨"ci", "A"⟩]).2.Accepts (.add ⟨"ci", "D"⟩) := by
  intro store front changes
  have added : (store.journal changes)[front.length]? = some ⟨.add ⟨"lab", "E"⟩, true⟩ := by decide
  rcases store.run_accounts_for_keys changes with ⟨counted, -, answered, bounded, restored⟩
  refine ⟨added, ?_, counted ⟨"ci", "A"⟩, ?_, ?_⟩
  · exact (restored front ⟨"lab", "E"⟩ [.delete ⟨"ci", "E"⟩] rfl added).2.trans (by decide)
  · exact bounded changes.length "ci"
  · rcases answered [.delete ⟨"ci", "A"⟩] (.add ⟨"ci", "D"⟩) _ rfl with ⟨accepted, entry, told⟩
    have refused : accepted = false := congrArg Entry.accepted (Option.some.inj entry).symm
    rw [refused] at told
    exact fun can => Bool.false_ne_true (told.mpr can)

end AccountPanel.Store
