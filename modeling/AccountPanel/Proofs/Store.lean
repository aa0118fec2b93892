import AccountPanel.Backend

/-!
# Changes to a store

When a store takes a change, and what it holds then. A change that is refused leaves it as it was.
A journal lists changes with the answers to them, and what a store holds at its end is accounted
for by its entries.
-/

namespace AccountPanel.Store

variable (store : Store) {key : Key}

theorem hasName_iff {name : String} :
    store.hasName name = true ↔ ∃ stored ∈ store.keys, stored.name = name := by
  simp [hasName]

/-- A key with a new name comes behind all others. -/
theorem add_of_fresh (fresh : ∀ stored ∈ store.keys, stored.name ≠ key.name) :
    store.add key = (true, ⟨store.keys ++ [key]⟩) := by
  rw [add, if_neg]
  rw [hasName_iff]
  intro taken
  rcases taken with ⟨stored, member, same⟩
  exact fresh stored member same

/-- A name that is in use is refused. -/
theorem add_of_taken (taken : ∃ stored ∈ store.keys, stored.name = key.name) :
    store.add key = (false, store) := by
  rw [add, if_pos ((store.hasName_iff).mpr taken)]

/-- The first record equal to a stored key is taken out. -/
theorem delete_of_mem (member : key ∈ store.keys) :
    ∃ front behind, store.keys = front ++ key :: behind ∧ key ∉ front ∧
      store.delete key = (true, ⟨front ++ behind⟩) := by
  rcases List.exists_erase_eq member with ⟨front, behind, absent, split, left⟩
  refine ⟨front, behind, split, absent, ?_⟩
  rw [delete, if_pos (List.contains_iff_mem.mpr member), left]

/-- A key that is not stored is refused. -/
theorem delete_of_notMem (absent : key ∉ store.keys) : store.delete key = (false, store) := by
  rw [delete, if_neg]
  rw [List.contains_iff_mem]
  exact absent

/-- The ways a change goes: a new key is added at the end, a stored one is taken out, or nothing is
changed. -/
theorem apply_cases (change : Change) :
    (∃ key, change = .add key ∧ store.apply change = (true, ⟨store.keys ++ [key]⟩)) ∨
      (∃ key front behind, change = .delete key ∧ store.keys = front ++ key :: behind ∧
        store.apply change = (true, ⟨front ++ behind⟩)) ∨
      store.apply change = (false, store) := by
  cases change with
  | add key =>
      by_cases taken : ∃ stored ∈ store.keys, stored.name = key.name
      · exact .inr (.inr (store.add_of_taken taken))
      · have fresh : ∀ stored ∈ store.keys, stored.name ≠ key.name :=
          fun stored member same => taken ⟨stored, member, same⟩
        exact .inl ⟨key, rfl, store.add_of_fresh fresh⟩
  | delete key =>
      by_cases member : key ∈ store.keys
      · rcases store.delete_of_mem member with ⟨front, behind, split, -, deleted⟩
        exact .inr (.inl ⟨key, front, behind, rfl, split, deleted⟩)
      · exact .inr (.inr (store.delete_of_notMem member))

/-! ## Journals -/

/-- A change with the store's answer to it. -/
structure Entry where
  change : Change
  accepted : Bool
  deriving Repr, DecidableEq

/-- The entry that a change makes in a journal. -/
def entry (change : Change) : Entry := ⟨change, (store.apply change).1⟩

/-- The entries are those of changes made in order, from one store to the other. -/
inductive Journal : Store → List Entry → Store → Prop where
  | nil (store : Store) : Journal store [] store
  | cons {store last : Store} {entries : List Entry} (change : Change)
      (rest : Journal (store.apply change).2 entries last) :
      Journal store (store.entry change :: entries) last

namespace Journal

variable {store middle last : Store} {entries more : List Entry}

theorem single (store : Store) (change : Change) :
    Journal store [store.entry change] (store.apply change).2 :=
  .cons change (.nil _)

theorem append (one : Journal store entries middle) (other : Journal middle more last) :
    Journal store (entries ++ more) last := by
  induction one with
  | nil => exact other
  | cons change rest ih => exact .cons change (ih other)

/-- The first entry of a journal tells how its store takes the change. -/
theorem of_cons {entry : Entry} (journal : Journal store (entry :: entries) last) :
    entry = store.entry entry.change ∧ Journal (store.apply entry.change).2 entries last := by
  cases journal with
  | cons change rest => exact ⟨rfl, rest⟩

/-- A journal can be cut between two entries. -/
theorem split (journal : Journal store (entries ++ more) last) :
    ∃ middle, Journal store entries middle ∧ Journal middle more last := by
  induction entries generalizing store with
  | nil => exact ⟨store, .nil store, journal⟩
  | cons entry entries ih =>
      rcases journal.of_cons with ⟨first, rest⟩
      rcases ih rest with ⟨middle, one, other⟩
      rw [first]
      exact ⟨middle, .cons entry.change one, other⟩

/-- A journal is a run of its changes, with the answers to them. -/
theorem run_eq (journal : Journal store entries last) :
    store.run (entries.map (·.change)) = (entries.map (·.accepted), last) := by
  induction journal with
  | nil => rfl
  | cons change rest ih =>
      rw [List.map_cons, List.map_cons, run]
      simp only [entry, ih]

end Journal

/-! ### What an entry accounts for -/

/-- An accepted add stores its key once more, and an accepted deletion once less. -/
theorem count_apply (change : Change) (key : Key) :
    (store.apply change).2.keys.count key + [store.entry change].count ⟨.delete key, true⟩ =
      store.keys.count key + [store.entry change].count ⟨.add key, true⟩ := by
  rcases store.apply_cases change with
    ⟨new, rfl, added⟩ | ⟨old, front, behind, rfl, split, deleted⟩ | refused
  · simp [entry, added, List.count_singleton]
  · have noAdd : (⟨.add key, true⟩ : Entry) ∉ [⟨.delete old, true⟩] := by simp
    simp only [entry, deleted, split, List.count_append, List.count_cons, List.count_nil,
      List.count_eq_zero.mpr noAdd, beq_iff_eq, Entry.mk.injEq, Change.delete.injEq, and_true]
    omega
  · simp [entry, refused]

/-- A name stays in use under a change, unless the change takes out a key with that name. -/
theorem hasName_apply {name : String} (used : store.hasName name = true) (change : Change)
    (kept : ∀ key, store.entry change = ⟨.delete key, true⟩ → key.name ≠ name) :
    (store.apply change).2.hasName name = true := by
  rw [hasName_iff] at used ⊢
  rcases used with ⟨stored, member, named⟩
  rcases store.apply_cases change with
    ⟨new, rfl, added⟩ | ⟨old, front, behind, rfl, split, deleted⟩ | refused
  · rw [added]
    exact ⟨stored, List.mem_append_left [new] member, named⟩
  · have other : stored ≠ old := by
      intro same
      exact kept old (by rw [entry, deleted]) (same ▸ named)
    rw [split, List.mem_append, List.mem_cons] at member
    rw [deleted]
    exact ⟨stored, List.mem_append.mpr (member.imp_right (Or.resolve_left · other)), named⟩
  · rw [refused]
    exact ⟨stored, member, named⟩

/-- An accepted add has a name that was not in use, and puts it in use. -/
theorem hasName_of_entry_eq (accepted : store.entry (.add key) = ⟨.add key, true⟩) :
    store.hasName key.name = false ∧ (store.apply (.add key)).2.hasName key.name = true := by
  have verdict : (store.apply (.add key)).1 = true := congrArg Entry.accepted accepted
  rw [apply, add] at verdict ⊢
  split at verdict
  · cases verdict
  next fresh =>
    rw [if_neg fresh, hasName_iff]
    exact ⟨Bool.eq_false_iff.mpr fresh, key, List.mem_append_right _ List.mem_cons_self, rfl⟩

/-- The key that an entry puts behind the others, if it does. -/
def Entry.addedKey? : Entry → Option Key
  | ⟨.add key, true⟩ => some key
  | _ => none

/-- The keys that the entries put behind the others, in order. -/
def addedKeys (entries : List Entry) : List Key := entries.filterMap Entry.addedKey?

/-- A change takes keys out or puts one behind the others. -/
theorem keys_apply_sublist (change : Change) :
    (store.apply change).2.keys.Sublist (store.keys ++ addedKeys [store.entry change]) := by
  rcases store.apply_cases change with
    ⟨new, rfl, added⟩ | ⟨old, front, behind, rfl, split, deleted⟩ | refused
  · have keys : addedKeys [store.entry (.add new)] = [new] := by
      rw [entry, added]
      rfl
    have same : (store.apply (.add new)).2.keys =
        store.keys ++ addedKeys [store.entry (.add new)] := by
      rw [added, keys]
    exact same ▸ List.Sublist.refl _
  · rw [deleted, split]
    exact ((List.sublist_cons_self old behind).append_left front).trans
      (List.sublist_append_left _ _)
  · rw [refused]
    exact List.sublist_append_left _ _

/-- A change adds a key with a name only where there is none. -/
theorem countP_name_apply_le (change : Change) (name : String) :
    (store.apply change).2.keys.countP (·.name == name) ≤
      max 1 (store.keys.countP (·.name == name)) := by
  cases change with
  | add key =>
      rw [apply, add]
      split
      · exact Nat.le_max_right _ _
      next fresh =>
        rw [List.countP_append, List.countP_singleton]
        split
        next named =>
          have none : store.keys.countP (·.name == name) = 0 := by
            rw [List.countP_eq_zero, ← eq_of_beq named]
            intro stored member same
            exact fresh ((store.hasName_iff).mpr ⟨stored, member, eq_of_beq same⟩)
          rw [none]
          exact Nat.le_max_left _ _
        · exact Nat.le_max_right _ _
  | delete key =>
      rw [apply, delete]
      split
      · exact Nat.le_trans List.erase_sublist.countP_le (Nat.le_max_right _ _)
      · exact Nat.le_max_right _ _

/-! ### What a journal accounts for -/

namespace Journal

variable {store last : Store} {entries : List Entry}

/-- What a store holds at the end is left of the keys at first and of those that were added since,
in that order. -/
theorem keys_sublist (journal : Journal store entries last) :
    last.keys.Sublist (store.keys ++ addedKeys entries) := by
  induction journal with
  | nil store => exact List.sublist_append_left _ _
  | @cons store last entries change rest ih =>
      have parts : addedKeys (store.entry change :: entries) =
          addedKeys [store.entry change] ++ addedKeys entries := List.filterMap_append (l := [_])
      rw [parts, ← List.append_assoc]
      exact ih.trans ((store.keys_apply_sublist change).append_right _)

/-- A name that comes once at most never comes twice, and others never more often than at first. -/
theorem countP_name_le (journal : Journal store entries last) (name : String) :
    last.keys.countP (·.name == name) ≤ max 1 (store.keys.countP (·.name == name)) := by
  induction journal with
  | nil store => exact Nat.le_max_right _ _
  | @cons store last entries change rest ih =>
      have first := store.countP_name_apply_le change name
      omega

/-- A key is stored as often as at first, once more for each accepted add of it and once less for
each accepted deletion. -/
theorem count_keys (journal : Journal store entries last) (key : Key) :
    last.keys.count key + entries.count ⟨.delete key, true⟩ =
      store.keys.count key + entries.count ⟨.add key, true⟩ := by
  induction journal with
  | nil => rfl
  | @cons store last entries change rest ih =>
      have first := store.count_apply change key
      rw [List.count_singleton, List.count_singleton] at first
      rw [List.count_cons, List.count_cons]
      omega

/-- A name stays in use unless some accepted deletion has that name. -/
theorem hasName {name : String} (journal : Journal store entries last)
    (used : store.hasName name = true)
    (kept : ∀ key, ⟨.delete key, true⟩ ∈ entries → key.name ≠ name) :
    last.hasName name = true := by
  induction journal with
  | nil => exact used
  | @cons store last entries change rest ih =>
      apply ih
      · exact store.hasName_apply used change fun key same =>
          kept key (same ▸ List.mem_cons_self)
      · exact fun key member => kept key (List.mem_cons_of_mem _ member)

/-- Between two accepted adds of one name a key with that name is taken out. -/
theorem exists_delete_between {first second : Key} {front between behind : List Entry}
    (journal : Journal store
      (front ++ ⟨.add first, true⟩ :: (between ++ ⟨.add second, true⟩ :: behind)) last)
    (same : first.name = second.name) :
    ∃ key, ⟨.delete key, true⟩ ∈ between ∧ key.name = first.name := by
  rcases journal.split with ⟨before, -, opening⟩
  rcases opening.of_cons with ⟨added, rest⟩
  rcases rest.split with ⟨after, passed, closing⟩
  have used := (before.hasName_of_entry_eq added.symm).2
  have free := (after.hasName_of_entry_eq closing.of_cons.1.symm).1
  -- Without such a deletion the name would still be in use where it is added again.
  apply Classical.byContradiction
  intro none
  have kept : after.hasName first.name = true :=
    passed.hasName used fun key member named => none ⟨key, member, named⟩
  rw [same, free] at kept
  cases kept

end Journal

end AccountPanel.Store
