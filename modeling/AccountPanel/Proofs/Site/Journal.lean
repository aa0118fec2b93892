import AccountPanel.Proofs.Site.Changes

/-!
# The journal of a site

The changes that a run makes to a store in memory are a journal of it. Each key in it was put into
the store by an exchange of the run, which had it from the draft that its request submits.
-/

namespace AccountPanel

open Http

namespace Exchange

variable {exchange : Exchange Store}

/-- The changes of an exchange, with the draft that an added key comes from. -/
theorem Outcome.exists_journal (outcome : exchange.Outcome) :
    ∃ entries, Store.Journal exchange.before entries exchange.after ∧
      ∀ key ∈ Store.addedKeys entries, ∃ draft, exchange.Adds draft ∧ draft.trimmed = key := by
  cases outcome with
  | @added draft submits adds answered =>
      have change : exchange.before.apply (.add draft.trimmed) = (true, exchange.after) := by
        rw [Store.apply, exchange.before.add_of_fresh adds.fresh]
        exact congrArg (Prod.mk true) (congrArg Store.mk adds.keys.symm)
      have journal := Store.Journal.single exchange.before (.add draft.trimmed)
      rw [Store.entry, change] at journal
      refine ⟨_, journal, ?_⟩
      intro key member
      exact ⟨draft, adds, (List.mem_singleton.mp member).symm⟩
  | @removed key submits removes answered =>
      rcases removes.keys with ⟨front, behind, before, absent, after⟩
      have change : exchange.before.apply (.delete key) = (true, exchange.after) := by
        have member : key ∈ exchange.before.keys := by
          rw [before]
          exact List.mem_append_right front List.mem_cons_self
        have left : exchange.before.keys.erase key = exchange.after.keys := by
          rw [before, after, List.erase_append_right _ absent, List.erase_cons_head]
        rw [Store.apply, Store.delete, if_pos (List.contains_iff_mem.mpr member), left]
      have journal := Store.Journal.single exchange.before (.delete key)
      rw [Store.entry, change] at journal
      refine ⟨_, journal, ?_⟩
      intro other member
      cases member
  | kept keeps answered =>
      refine ⟨[], ?_, ?_⟩
      · rw [keeps]
        exact .nil exchange.before
      · intro key member
        cases member

end Exchange

namespace Site

variable (site : Site)

/-- The changes of a run, with the exchange and the draft that an added key comes from. -/
theorem exists_journal (requests : List Request) (store : Store) :
    ∃ entries,
      Store.Journal store entries (site.respondAll Backend.inMemory requests store).2 ∧
        ∀ key ∈ Store.addedKeys entries,
          ∃ exchange ∈ site.history Backend.inMemory requests store,
            ∃ draft, exchange.Adds draft ∧ draft.trimmed = key := by
  induction requests generalizing store with
  | nil =>
      refine ⟨[], .nil store, ?_⟩
      intro key member
      cases member
  | cons request requests ih =>
      let first := site.exchange Backend.inMemory request store
      rcases (site.outcome_exchange request store).exists_journal with ⟨entries, one, given⟩
      rcases ih first.after with ⟨others, rest, givenBehind⟩
      refine ⟨entries ++ others, ?_, ?_⟩
      · rw [respondAll_cons]
        exact one.append rest
      · intro key member
        rw [Store.addedKeys, List.filterMap_append, List.mem_append] at member
        rw [history_cons]
        rcases member with front | behind
        · exact ⟨first, List.mem_cons_self, given key front⟩
        · rcases givenBehind key behind with ⟨exchange, found, adds⟩
          exact ⟨exchange, List.mem_cons_of_mem _ found, adds⟩

/-- After a run the store holds what is left of its first keys, and behind them keys that exchanges
of the run added. -/
theorem exists_kept_added (requests : List Request) (store : Store) :
    ∃ kept added,
      (site.respondAll Backend.inMemory requests store).2.keys = kept ++ added ∧
        kept.Sublist store.keys ∧
          ∀ key ∈ added, ∃ exchange ∈ site.history Backend.inMemory requests store,
            ∃ draft, exchange.Adds draft ∧ draft.trimmed = key := by
  rcases site.exists_journal requests store with ⟨entries, journal, given⟩
  rcases List.sublist_append_iff.mp journal.keys_sublist with ⟨kept, added, split, first, later⟩
  exact ⟨kept, added, split, first, fun key member => given key (later.subset member)⟩

end Site

end AccountPanel
