import AccountPanel.Proofs.Site.InFlight

/-!
# Requests in flight, in turn

Requests that take their steps in any order are answered as if they had come one by one. They come
in the order of their changes; where a request that changes nothing comes makes no difference. What
a request listed before it made its change has no part in this.
-/

namespace AccountPanel

open Http

/-! ## Orders -/

/-- Items with keys among those of a list without repetitions, and in its order, can be collected
key by key. -/
theorem flatMap_filter_eq_of_sublist {α β : Type} [DecidableEq β] {key : α → β} {items : List α}
    {order : List β} (nodup : order.Nodup) (kept : (items.map key).Sublist order) :
    (order.flatMap fun index => items.filter (key · == index)) = items := by
  -- The first key takes the first item, if that has this key, and no other, since the keys of all
  -- later items stand behind it.
  induction order generalizing items with
  | nil =>
      rw [List.map_eq_nil_iff.mp (List.sublist_nil.mp kept)]
      rfl
  | cons first order ih =>
      rcases List.nodup_cons.mp nodup with ⟨absent, distinct⟩
      have none : ∀ {items : List α}, (items.map key).Sublist order →
          items.filter (key · == first) = [] := by
        intro items kept
        rw [List.filter_eq_nil_iff]
        intro item member same
        apply absent
        rw [← beq_iff_eq.mp same]
        exact kept.subset (List.mem_map_of_mem member)
      rw [List.flatMap_cons]
      rcases List.sublist_cons_iff.mp kept with later | ⟨keys, split, later⟩
      · rw [none later, ih distinct later, List.nil_append]
      · rcases List.map_eq_cons_iff.mp split with ⟨item, rest, rfl, rfl, rfl⟩
        have others : (order.flatMap fun index => (item :: rest).filter (key · == index)) =
            order.flatMap fun index => rest.filter (key · == index) := by
          apply List.flatMap_congr
          intro index member
          rw [List.filter_cons_of_neg]
          intro same
          exact absent (beq_iff_eq.mp same ▸ member)
        have own : (item :: rest).filter (key · == key item) = [item] := by
          rw [List.filter_cons, if_pos (beq_self_eq_true (key item)), none later]
        rw [others, ih distinct later, own]
        rfl

/-- The answered requests in the order of the changes made for them. -/
structure Flight.InOrder {n : Nat} (flight : Flight n) (order : List (Fin n)) : Prop where
  nodup : order.Nodup
  answered : ∀ index, index ∈ order ↔ (flight.response? index).isSome = true
  changes : (flight.commits.map (·.index)).Sublist order

theorem Flight.InOrder.flatMap_entriesOf {n : Nat} {flight : Flight n} {order : List (Fin n)}
    (inOrder : flight.InOrder order) :
    order.flatMap flight.entriesOf = flight.commits.map (·.toEntry) := by
  have collected := flatMap_filter_eq_of_sublist inOrder.nodup inOrder.changes
  calc
    order.flatMap flight.entriesOf
      = (order.flatMap fun index => flight.commits.filter (·.index == index)).map (·.toEntry) := by
        rw [List.map_flatMap]
        rfl
    _ = flight.commits.map (·.toEntry) := by rw [collected]

namespace Site

variable (site : Site) {n : Nat} {requests : Fin n → Request}

/-! ## One request -/

/-- A request that comes on its own is answered as it was in flight. -/
theorem respond_of_answered {request : Request} {response : Response} {store next : Store}
    {entries : List Store.Entry} (answered : site.Answered request response entries)
    (journal : Store.Journal store entries next) :
    (site.respond Backend.inMemory request store).1.outcome = response.outcome ∧
      (site.respond Backend.inMemory request store).2 = next := by
  have quiet : ∀ state, (Backend.inMemory.list state).2 = state := fun _ => rfl
  cases answered with
  | @changed entry asks told =>
      rcases site.respond_of_asksFor Backend.inMemory store quiet asks with ⟨outcome, left⟩
      rcases journal.of_cons with ⟨taken, done⟩
      cases done
      constructor
      · rw [outcome, told]
        exact congrArg Store.Entry.outcome taken.symm
      · exact left
  | unchanged asks told =>
      cases journal
      exact ⟨(told store).symm, site.respond_of_asksForNothing Backend.inMemory store quiet asks⟩

/-- Requests that come in turn are answered as they were in flight, if the entries made for them
follow on each other. -/
theorem respondAll_of_answered {flight : Flight n} {order : List (Fin n)} {store last : Store}
    (answered : ∀ index ∈ order, ∃ response, flight.response? index = some response ∧
      site.Answered (requests index) response (flight.entriesOf index))
    (journal : Store.Journal store (order.flatMap flight.entriesOf) last) :
    (site.respondAll Backend.inMemory (order.map requests) store).1.map (some ·.outcome) =
        order.map (fun index => (flight.response? index).map Response.outcome) ∧
      (site.respondAll Backend.inMemory (order.map requests) store).2 = last := by
  induction order generalizing store with
  | nil =>
      cases journal
      exact ⟨rfl, rfl⟩
  | cons index order ih =>
      rw [List.flatMap_cons] at journal
      rcases journal.split with ⟨next, first, rest⟩
      rcases answered index List.mem_cons_self with ⟨response, responded, one⟩
      rcases site.respond_of_answered one first with ⟨outcome, left⟩
      rcases ih (fun other member => answered other (List.mem_cons_of_mem index member)) rest with
        ⟨outcomes, final⟩
      rw [List.map_cons, respondAll_cons]
      dsimp only
      rw [left]
      constructor
      · rw [List.map_cons, List.map_cons, outcomes, responded, outcome]
        rfl
      · exact final

/-! ## Moments of an interleaving -/

section Sound

variable {site} {request : Request} {response : Response} {entries : List Store.Entry}

theorem Answered.asksFor (answered : site.Answered request response entries) :
    request.AsksFor (entries.map (·.change)) := by
  cases answered with
  | changed asks => exact asks
  | unchanged asks => exact asks

theorem Answered.length_le_one (answered : site.Answered request response entries) :
    entries.length ≤ 1 := by
  cases answered with
  | changed => exact Nat.le_refl 1
  | unchanged => exact Nat.zero_le 1

theorem Answered.outcome_of_mem {entry : Store.Entry}
    (answered : site.Answered request response entries) (made : entry ∈ entries) :
    response.outcome = entry.outcome := by
  cases answered with
  | changed asks told =>
      rw [List.mem_singleton.mp made]
      exact told
  | unchanged => cases made

variable {store : Store} {flight : Flight n} {index : Fin n}

theorem Sound.answered (sound : site.Sound requests store flight)
    (responded : flight.response? index = some response) :
    site.Answered (requests index) response (flight.entriesOf index) := by
  have reached := sound.reached index
  rw [Flight.response?] at responded
  generalize flight.stages index = stage at reached responded
  generalize flight.entriesOf index = entries at reached ⊢
  cases reached with
  | arrived => cases responded
  | listed => cases responded
  | answered answered =>
      cases responded
      exact answered

/-- Nothing was changed for a request that is not answered yet. -/
theorem Sound.entriesOf_eq_nil (sound : site.Sound requests store flight)
    (waiting : flight.response? index = none) : flight.entriesOf index = [] := by
  have reached := sound.reached index
  rw [Flight.response?] at waiting
  generalize flight.stages index = stage at reached waiting
  generalize flight.entriesOf index = entries at reached ⊢
  cases reached with
  | arrived => rfl
  | listed => rfl
  | answered => cases waiting

/-- At most one change is made for a request. -/
theorem Sound.length_entriesOf_le (sound : site.Sound requests store flight) (index : Fin n) :
    (flight.entriesOf index).length ≤ 1 := by
  cases responded : flight.response? index with
  | none =>
      rw [sound.entriesOf_eq_nil responded]
      exact Nat.zero_le 1
  | some response => exact (sound.answered responded).length_le_one

/-- A commit is among the entries of its request. -/
theorem mem_entriesOf {commit : Commit n} (made : commit ∈ flight.commits) :
    commit.toEntry ∈ flight.entriesOf commit.index :=
  List.mem_map_of_mem (List.mem_filter.mpr ⟨made, beq_self_eq_true commit.index⟩)

/-- The request that a commit was made for has the response that tells it. -/
theorem Sound.outcome_of_mem (sound : site.Sound requests store flight) {commit : Commit n}
    (made : commit ∈ flight.commits) :
    (flight.response? commit.index).map Response.outcome = some commit.outcome := by
  have entry := mem_entriesOf made
  cases responded : flight.response? commit.index with
  | none =>
      rw [sound.entriesOf_eq_nil responded] at entry
      cases entry
  | some response => exact congrArg some ((sound.answered responded).outcome_of_mem entry)

/-- No request has two commits. -/
theorem Sound.nodup_commits (sound : site.Sound requests store flight) :
    (flight.commits.map (·.index)).Nodup := by
  rw [List.nodup_iff_count_le_one]
  intro index
  have one := sound.length_entriesOf_le index
  rw [Flight.entriesOf, List.length_map, ← List.countP_eq_length_filter] at one
  rw [List.count, List.countP_map]
  exact one

/-- The answered requests can be put in the order of their changes. -/
theorem Sound.exists_inOrder (sound : site.Sound requests store flight) :
    ∃ order, flight.InOrder order := by
  let changing := flight.commits.map (·.index)
  let others := (List.finRange n).filter fun index =>
    (flight.response? index).isSome && !changing.contains index
  have mem_others : ∀ index,
      index ∈ others ↔ (flight.response? index).isSome = true ∧ index ∉ changing := by
    intro index
    simp [others, List.mem_filter]
  refine ⟨changing ++ others, ?_, ?_, List.sublist_append_left changing others⟩
  · rw [List.nodup_append']
    refine ⟨sound.nodup_commits, (List.nodup_finRange n).filter _, ?_⟩
    intro index made other
    exact ((mem_others index).mp other).2 made
  · intro index
    rw [List.mem_append, mem_others]
    constructor
    · rintro (made | ⟨answered, -⟩)
      · rcases List.mem_map.mp made with ⟨commit, member, rfl⟩
        have outcome := sound.outcome_of_mem member
        rw [← Option.isSome_map, outcome]
        rfl
      · exact answered
    · intro answered
      by_cases made : index ∈ changing
      · exact .inl made
      · exact .inr ⟨answered, made⟩

/-- Requests in flight are answered as if the answered ones had come in the order of their
changes. -/
theorem Sound.respondAll_eq (sound : site.Sound requests store flight) {order : List (Fin n)}
    (inOrder : flight.InOrder order) :
    (site.respondAll Backend.inMemory (order.map requests) store).1.map (some ·.outcome) =
        order.map (fun index => (flight.response? index).map Response.outcome) ∧
      (site.respondAll Backend.inMemory (order.map requests) store).2 = flight.store := by
  apply site.respondAll_of_answered
  · intro index member
    rcases Option.isSome_iff_exists.mp ((inOrder.answered index).mp member) with
      ⟨response, responded⟩
    exact ⟨response, responded, sound.answered responded⟩
  · rw [inOrder.flatMap_entriesOf]
    exact sound.journal

/-- Between two accepted adds of one name a key with that name was deleted. -/
theorem Sound.exists_delete_between (sound : site.Sound requests store flight)
    {front between behind : List (Commit n)} {first second : Commit n} {one other : Key}
    (split : flight.commits = front ++ first :: (between ++ second :: behind))
    (adds : first.toEntry = ⟨.add one, true⟩) (again : second.toEntry = ⟨.add other, true⟩)
    (same : one.name = other.name) :
    ∃ commit ∈ between, ∃ key, commit.toEntry = ⟨.delete key, true⟩ ∧ key.name = one.name := by
  have journal := sound.journal
  rw [split, List.map_append, List.map_cons, List.map_append, List.map_cons, adds, again] at journal
  rcases journal.exists_delete_between same with ⟨key, member, named⟩
  rcases List.mem_map.mp member with ⟨commit, made, entry⟩
  exact ⟨commit, made, key, entry, named⟩

end Sound

/-- Requests over one store take their steps in any order; two steps at a stretch are those of a
request on its own. The answered ones have the statuses and addresses, and leave the store, of the
same requests in turn, in the order of their changes. Each has made the change it asks for, once,
and no name is added twice unless a key with that name is deleted in between. -/
theorem interleave_as_in_turn (requests : Fin n → Request) (store : Store)
    (schedule : List (Fin n)) :
    let flight := site.interleave requests store schedule
    (∀ index state,
      (site.advance Backend.inMemory (requests index) .arrived >>=
          site.advance Backend.inMemory (requests index)) state =
        (.answered (site.respond Backend.inMemory (requests index) state).1,
          (site.respond Backend.inMemory (requests index) state).2)) ∧
      (∀ index, 2 ≤ schedule.count index → (flight.response? index).isSome = true) ∧
      (∃ order, flight.InOrder order) ∧
      (∀ order, flight.InOrder order →
        let inTurn := site.respondAll Backend.inMemory (order.map requests) store
        inTurn.1.map (some ·.outcome) =
            order.map (fun index => (flight.response? index).map Response.outcome) ∧
          inTurn.2 = flight.store) ∧
      (∀ index, (flight.response? index).isSome = true →
        (requests index).AsksFor ((flight.entriesOf index).map (·.change))) ∧
      (∀ commit ∈ flight.commits,
        (flight.response? commit.index).map Response.outcome = some commit.outcome) ∧
      store.run (flight.commits.map (·.change)) =
        (flight.commits.map (·.accepted), flight.store) ∧
      (∀ key, flight.store.keys.count key +
          (flight.commits.map (·.toEntry)).count ⟨.delete key, true⟩ =
        store.keys.count key + (flight.commits.map (·.toEntry)).count ⟨.add key, true⟩) ∧
      ∀ (front between behind : List (Commit n)) (first second : Commit n) (one other : Key),
        flight.commits = front ++ first :: (between ++ second :: behind) →
          first.toEntry = ⟨.add one, true⟩ → second.toEntry = ⟨.add other, true⟩ →
            one.name = other.name →
              ∃ commit ∈ between, ∃ key, commit.toEntry = ⟨.delete key, true⟩ ∧
                key.name = one.name := by
  intro flight
  have sound : site.Sound requests store flight := site.sound_interleave store schedule
  refine ⟨fun index => site.advance_advance Backend.inMemory (requests index),
    fun index => site.answered_of_two_le, sound.exists_inOrder,
    fun order => sound.respondAll_eq, ?_, fun commit => sound.outcome_of_mem, ?_,
    sound.journal.count_keys, ?_⟩
  · intro index answered
    rcases Option.isSome_iff_exists.mp answered with ⟨response, responded⟩
    exact (sound.answered responded).asksFor
  · have run := sound.journal.run_eq
    rwa [List.map_map, List.map_map] at run
  · intro front between behind first second one other
    exact sound.exists_delete_between

/-- Two requests list no keys and then add one name. The first to add it is told so, and the other
is refused. -/
theorem interleave_as_in_turn_of_rivals :
    let site : Site := { profile := {} }
    let slow : Page.Form := ⟨"/account/ssh-keys", [("name", "desk"), ("key", "ssh-rsa A")]⟩
    let fast : Page.Form := ⟨"/account/ssh-keys", [("name", " desk"), ("key", "ssh-rsa B")]⟩
    let requests : Fin 2 → Request := fun index =>
      if index = 0 then slow.submission else fast.submission
    let flight := site.interleave requests ⟨[]⟩ [0, 1, 1, 0]
    flight.InOrder [1, 0] ∧
      (site.respondAll Backend.inMemory ([1, 0].map requests) ⟨[]⟩).2 = flight.store ∧
      (flight.response? 1).map Response.outcome = some (303, some "/account?tab=ssh-keys") ∧
      (flight.response? 0).map Response.outcome = some (422, none) := by
  intro site slow fast requests flight
  have commits : flight.commits =
      [⟨⟨.add ⟨"desk", "ssh-rsa B"⟩, true⟩, 1⟩, ⟨⟨.add ⟨"desk", "ssh-rsa A"⟩, false⟩, 0⟩] := by
    decide +kernel
  obtain ⟨-, answered, -, inTurn, -, told, -⟩ :=
    site.interleave_as_in_turn requests ⟨[]⟩ [0, 1, 1, 0]
  have inOrder : flight.InOrder [1, 0] := by
    refine ⟨by decide, ?_, ?_⟩
    · intro index
      refine iff_of_true ?_ (answered index ?_)
      · revert index
        decide
      · revert index
        decide
    · rw [commits]
      exact List.Sublist.refl _
  refine ⟨inOrder, (inTurn _ inOrder).2, ?_, ?_⟩
  · exact told ⟨⟨.add ⟨"desk", "ssh-rsa B"⟩, true⟩, 1⟩ (by rw [commits]; exact List.mem_cons_self)
  · exact told ⟨⟨.add ⟨"desk", "ssh-rsa A"⟩, false⟩, 0⟩
      (by rw [commits]; exact List.mem_cons_of_mem _ List.mem_cons_self)

end Site

end AccountPanel
