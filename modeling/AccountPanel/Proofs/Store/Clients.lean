import AccountPanel.Proofs.Store

/-!
# Clients of one store

Changes of several clients in one order. The keys with certain names form a store of their own: a
change with another name leaves it alone, and a change with one of these names is taken by it as by
the whole store. So a client whose names nobody else uses cannot tell that others are at work.
-/

namespace AccountPanel.Store

/-- The name that a change is about. -/
def Change.name : Change → String
  | .add key | .delete key => key.name

/-- The keys whose names pass a test. -/
def restrict (store : Store) (names : String → Bool) : Store := ⟨store.keys.filter (names ·.name)⟩

section Restrict

variable (store : Store) {names : String → Bool} {change : Change}

/-- Whether a name is in use is told by the keys with such names. -/
theorem hasName_restrict {name : String} (inside : names name = true) :
    (store.restrict names).hasName name = store.hasName name := by
  rw [Bool.eq_iff_iff, hasName_iff, hasName_iff]
  constructor
  · rintro ⟨stored, member, same⟩
    exact ⟨stored, (List.mem_filter.mp member).1, same⟩
  · rintro ⟨stored, member, same⟩
    exact ⟨stored, List.mem_filter.mpr ⟨member, same ▸ inside⟩, same⟩

/-- Whether a key is stored is told by the keys with names like its own. -/
theorem contains_restrict {key : Key} (inside : names key.name = true) :
    (store.restrict names).keys.contains key = store.keys.contains key := by
  rw [Bool.eq_iff_iff, List.contains_iff_mem, List.contains_iff_mem, restrict, List.mem_filter]
  exact and_iff_left inside

/-- A change with a name inside is taken by the keys inside as by the whole store. -/
theorem apply_restrict (inside : names change.name = true) :
    (store.restrict names).apply change =
      ((store.apply change).1, (store.apply change).2.restrict names) := by
  cases change with
  | add key =>
      have named : names key.name = true := inside
      rw [apply, apply, add, add, store.hasName_restrict named]
      split
      · rfl
      · have last : [key].filter (names ·.name) = [key] := by simp [named]
        rw [restrict, restrict, List.filter_append, last]
  | delete key =>
      have named : names key.name = true := inside
      rw [apply, apply, delete, delete, store.contains_restrict named]
      split
      · rw [restrict, restrict, List.erase_filter]
      · rfl

/-- A change with a name outside leaves the keys inside as they are. -/
theorem restrict_apply (outside : names change.name = false) :
    (store.apply change).2.restrict names = store.restrict names := by
  rcases store.apply_cases change with
    ⟨key, rfl, added⟩ | ⟨key, front, behind, rfl, split, deleted⟩ | refused
  · have named : names key.name = false := outside
    have none : [key].filter (names ·.name) = [] := by simp [named]
    rw [added, restrict, restrict, List.filter_append, none, List.append_nil]
  · have named : names key.name = false := outside
    have none : (key :: behind).filter (names ·.name) = behind.filter (names ·.name) := by
      simp [named]
    rw [deleted, restrict, restrict, split, List.filter_append, List.filter_append, none]
  · rw [refused]

/-- Changes with names outside leave the keys inside as they are. -/
theorem restrict_run {changes : List Change}
    (outside : ∀ change ∈ changes, names change.name = false) :
    (store.run changes).2.restrict names = store.restrict names := by
  induction changes generalizing store with
  | nil => rfl
  | cons change changes ih =>
      rcases List.forall_mem_cons.mp outside with ⟨first, rest⟩
      rw [run]
      calc ((store.apply change).2.run changes).2.restrict names
          = (store.apply change).2.restrict names := ih _ rest
        _ = store.restrict names := store.restrict_apply first

/-- Changes with names inside run on the keys inside as on the whole store. -/
theorem run_restrict {changes : List Change}
    (inside : ∀ change ∈ changes, names change.name = true) :
    (store.restrict names).run changes =
      ((store.run changes).1, (store.run changes).2.restrict names) := by
  induction changes generalizing store with
  | nil => rfl
  | cons change changes ih =>
      rcases List.forall_mem_cons.mp inside with ⟨first, rest⟩
      simp only [run, store.apply_restrict first, ih (store.apply change).2 rest]

end Restrict

/-! ## Several clients -/

variable {ι : Type}

/-- What belongs to one client in a list that several share. -/
def shareOf {α : Type} [DecidableEq ι] (client : ι) (shared : List (ι × α)) : List α :=
  (shared.filter (·.1 = client)).map (·.2)

section Share

variable {α : Type} [DecidableEq ι] {client other : ι} (item : α) (shared : List (ι × α))

@[simp] theorem shareOf_cons_self :
    shareOf client ((client, item) :: shared) = item :: shareOf client shared := by
  simp [shareOf]

theorem shareOf_cons_of_ne (different : other ≠ client) :
    shareOf client ((other, item) :: shared) = shareOf client shared := by
  simp [shareOf, different]

theorem mem_shareOf : item ∈ shareOf client shared ↔ (client, item) ∈ shared := by
  simp only [shareOf, List.mem_map, List.mem_filter, decide_eq_true_eq]
  constructor
  · rintro ⟨⟨owner, found⟩, ⟨member, rfl⟩, rfl⟩
    exact member
  · intro member
    exact ⟨(client, item), ⟨member, rfl⟩, rfl⟩

end Share

/-- Carry out changes of several clients in order. Each answer goes to the client that asked. -/
def runShared (store : Store) (shared : List (ι × Change)) : List (ι × Bool) × Store :=
  let (answers, last) := store.run (shared.map (·.2))
  ((shared.map (·.1)).zip answers, last)

theorem runShared_cons (store : Store) (client : ι) (change : Change)
    (shared : List (ι × Change)) :
    store.runShared ((client, change) :: shared) =
      let rest := (store.apply change).2.runShared shared
      ((client, (store.apply change).1) :: rest.1, rest.2) := rfl

variable [DecidableEq ι]

/-- If certain names are used by one client alone, its changes run on the keys with these names as
they do among those of the others. -/
theorem run_shareOf (store : Store) {names : String → Bool} {client : ι}
    {shared : List (ι × Change)}
    (used : ∀ one ∈ shared, names one.2.name = true ↔ one.1 = client) :
    (store.restrict names).run (shareOf client shared) =
      (shareOf client (store.runShared shared).1, (store.runShared shared).2.restrict names) := by
  induction shared generalizing store with
  | nil => rfl
  | cons one shared ih =>
      obtain ⟨owner, change⟩ := one
      rcases List.forall_mem_cons.mp used with ⟨first, usedBehind⟩
      have rest := ih (store.apply change).2 usedBehind
      rw [runShared_cons]
      by_cases own : owner = client
      · subst own
        rw [shareOf_cons_self, shareOf_cons_self, run, store.apply_restrict (first.mpr rfl)]
        simp only [rest]
      · have outside : names change.name = false := Bool.eq_false_iff.mpr (own ∘ first.mp)
        rw [shareOf_cons_of_ne _ _ own, shareOf_cons_of_ne _ _ own,
          ← store.restrict_apply outside, rest]

/-- Is a name used by some of the changes? -/
def usesName (changes : List Change) (name : String) : Bool := changes.any (·.name == name)

theorem usesName_iff {changes : List Change} {name : String} :
    usesName changes name = true ↔ ∃ change ∈ changes, change.name = name := by
  simp [usesName]

/-- Clients whose changes have no name in common do not disturb each other, in whatever order their
changes come. Each gets the answers that it gets alone, and leaves the keys with its names as it
does alone. Keys whose names nobody uses stay as they are, in their order. -/
theorem clients_undisturbed (store : Store) (shared : List (ι × Change))
    (apart : ∀ one ∈ shared, ∀ other ∈ shared, one.1 ≠ other.1 → one.2.name ≠ other.2.name) :
    let last := (store.runShared shared).2
    (∀ client,
      let own := shareOf client shared
      shareOf client (store.runShared shared).1 = (store.run own).1 ∧
        last.keys.filter (usesName own ·.name) =
          (store.run own).2.keys.filter (usesName own ·.name)) ∧
      last.keys.filter (! usesName (shared.map (·.2)) ·.name) =
        store.keys.filter (! usesName (shared.map (·.2)) ·.name) := by
  intro last
  constructor
  · intro client own
    have used : ∀ one ∈ shared, usesName own one.2.name = true ↔ one.1 = client := by
      intro one member
      rw [usesName_iff]
      constructor
      · rintro ⟨change, mine, same⟩
        apply Classical.byContradiction
        intro different
        exact apart _ ((mem_shareOf _ _).mp mine) one member (Ne.symm different) same
      · rintro rfl
        exact ⟨one.2, (mem_shareOf _ _).mpr member, rfl⟩
    have inside : ∀ change ∈ own, usesName own change.name = true := fun change member =>
      usesName_iff.mpr ⟨change, member, rfl⟩
    -- Both runs are described by the run on the keys with the names of the client.
    have same := (store.run_shareOf used).symm.trans (store.run_restrict inside)
    rw [Prod.mk.injEq] at same
    exact ⟨same.1, congrArg keys same.2⟩
  · have outside : ∀ change ∈ shared.map (·.2),
        (! usesName (shared.map (·.2)) change.name) = false := by
      intro change member
      rw [usesName_iff.mpr ⟨change, member, rfl⟩]
      rfl
    have frame : last.restrict (! usesName (shared.map (·.2)) ·) =
        store.restrict (! usesName (shared.map (·.2)) ·) := store.restrict_run outside
    exact congrArg keys frame

/-- Two clients take turns on a store that holds a record twice. -/
theorem clients_undisturbed_of_two :
    let store : Store := ⟨[⟨"ci", "A"⟩, ⟨"desk", "B"⟩, ⟨"ci", "A"⟩, ⟨"lab", "C"⟩]⟩
    let shared : List (Bool × Change) :=
      [(true, .delete ⟨"ci", "A"⟩), (false, .add ⟨"home", "D"⟩), (true, .add ⟨"ci", "E"⟩),
        (false, .delete ⟨"desk", "B"⟩), (true, .delete ⟨"ci", "A"⟩),
        (false, .add ⟨"home", "F"⟩), (true, .add ⟨"ci", "E"⟩)]
    (∀ one ∈ shared, ∀ other ∈ shared, one.1 ≠ other.1 → one.2.name ≠ other.2.name) ∧
      shareOf true (store.runShared shared).1 = [true, false, true, true] ∧
      shareOf false (store.runShared shared).1 = [true, true, false] ∧
      (store.runShared shared).2.keys.filter (usesName (shareOf true shared) ·.name) =
        [⟨"ci", "E"⟩] ∧
      (store.runShared shared).2.keys.filter (! usesName (shared.map (·.2)) ·.name) =
        [⟨"lab", "C"⟩] := by
  intro store shared
  have apart : ∀ one ∈ shared, ∀ other ∈ shared, one.1 ≠ other.1 →
      one.2.name ≠ other.2.name := by decide
  have told := store.clients_undisturbed shared apart
  refine ⟨apart, (told.1 true).1.trans ?_, (told.1 false).1.trans ?_, (told.1 true).2.trans ?_,
    told.2.trans ?_⟩
  · decide
  · decide
  · decide
  · decide

end AccountPanel.Store
