import AccountPanel.Http.Record
import AccountPanel.Proofs.Lookup

/-!
# Which fields are read

Fields are read unless a known name occurs twice among them. The reader goes through the names with
those it has seen, so what it finds depends on both; from the start, where it has seen nothing, it
is a condition on the counts of the known names alone.
-/

namespace AccountPanel.Http

namespace Record

variable {known seen names : List String} {name : String}

theorem firstRepeated?_of_unknown (unknown : name ∉ known) :
    firstRepeated? known seen (name :: names) = firstRepeated? known seen names := by
  rw [firstRepeated?, if_pos (by simpa using unknown)]

theorem firstRepeated?_of_seen (isKnown : name ∈ known) (isSeen : name ∈ seen) :
    firstRepeated? known seen (name :: names) = some name := by
  rw [firstRepeated?, if_neg (by simpa using isKnown), if_pos (by simpa using isSeen)]

theorem firstRepeated?_of_fresh (isKnown : name ∈ known) (fresh : name ∉ seen) :
    firstRepeated? known seen (name :: names) = firstRepeated? known (name :: seen) names := by
  rw [firstRepeated?, if_neg (by simpa using isKnown), if_neg (by simpa using fresh)]

/-- The reader finds nothing repeated exactly if every known name occurs once at most, and not at
all if it was seen before. -/
theorem firstRepeated?_eq_none_iff :
    firstRepeated? known seen names = none ↔
      ∀ name ∈ known, names.count name ≤ 1 ∧ (name ∈ seen → name ∉ names) := by
  induction names generalizing seen with
  | nil => simp [firstRepeated?]
  | cons first names ih =>
      by_cases isKnown : first ∈ known
      · by_cases isSeen : first ∈ seen
        · rw [firstRepeated?_of_seen isKnown isSeen]
          refine iff_of_false (Option.some_ne_none first) fun distinct => ?_
          exact (distinct first isKnown).2 isSeen List.mem_cons_self
        · rw [firstRepeated?_of_fresh isKnown isSeen, ih]
          refine forall₂_congr fun name _ => ?_
          by_cases same : first = name
          · subst same
            have absent : first ∉ names → names.count first ≤ 1 := by
              intro notMem
              rw [List.count_eq_zero.mpr notMem]
              exact Nat.zero_le 1
            simpa [isSeen, List.count_eq_zero] using absent
          · simp [same, Ne.symm same]
      · rw [firstRepeated?_of_unknown isKnown, ih]
        refine forall₂_congr fun name member => ?_
        have other : first ≠ name := fun same => isKnown (same ▸ member)
        simp [other, other.symm]

/-- Fields are distinct exactly if every known name occurs once at most. -/
theorem requireDistinct_eq_ok_iff {fields : List Urlencoded.Field} :
    requireDistinct known fields = .ok () ↔
      ∀ name ∈ known, (fields.map (·.1)).count name ≤ 1 := by
  have found : firstRepeated? known [] (fields.map (·.1)) = none ↔ _ := firstRepeated?_eq_none_iff
  simp only [List.not_mem_nil, false_implies, and_true] at found
  rw [← found, requireDistinct]
  cases firstRepeated? known [] (fields.map (·.1)) <;> simp

/-- How often a name occurs among fields. -/
def occurrences (fields : List Urlencoded.Field) (name : String) : Nat :=
  (fields.map (·.1)).count name

variable {fields others : List Urlencoded.Field}

/-- What follows the check of the names has a result exactly if the names pass it. -/
theorem exists_requireDistinct_iff {α : Type} {next : Except RecordError α} :
    (∃ result, (requireDistinct known fields >>= fun _ => next) = .ok result) ↔
      (∀ name ∈ known, occurrences fields name ≤ 1) ∧ ∃ result, next = .ok result := by
  have distinct : (∀ name ∈ known, occurrences fields name ≤ 1) ↔ _ :=
    requireDistinct_eq_ok_iff.symm
  rw [distinct]
  cases checked : requireDistinct known fields with
  | error cause => simp [Bind.bind, Except.bind]
  | ok => simp [Bind.bind, Except.bind]

theorem exists_value_iff :
    (∃ text, value fields name = .ok text) ↔ 0 < occurrences fields name := by
  have present : 0 < occurrences fields name ↔ _ := Lookup.isSome_lookup_iff.symm
  rw [present, value, value?]
  cases fields.lookup name <;> simp

/-! ## Fields with other names, and the order of fields -/

/-- Have two lists of fields the same fields with known names, in whatever order? -/
def AgreeOn (known : List String) (fields others : List Urlencoded.Field) : Prop :=
  (fields.filter (known.contains ·.1)).Perm (others.filter (known.contains ·.1))

namespace AgreeOn

instance : Decidable (AgreeOn known fields others) := inferInstanceAs (Decidable (List.Perm _ _))

theorem filter_perm (agree : AgreeOn known fields others) (isKnown : name ∈ known) :
    (fields.filter (·.1 == name)).Perm (others.filter (·.1 == name)) := by
  have narrowed : ∀ fields : List Urlencoded.Field,
      (fields.filter (known.contains ·.1)).filter (·.1 == name) = fields.filter (·.1 == name) := by
    intro fields
    rw [List.filter_filter]
    apply List.filter_congr
    intro field _
    by_cases same : field.1 = name
    · simp [same, isKnown]
    · simp [same]
  rw [← narrowed fields, ← narrowed others]
  exact agree.filter _

theorem occurrences_eq (agree : AgreeOn known fields others) (isKnown : name ∈ known) :
    occurrences fields name = occurrences others name := by
  rw [occurrences, occurrences, Lookup.count_eq_length_filter, Lookup.count_eq_length_filter]
  exact (agree.filter_perm isKnown).length_eq

theorem distinct (agree : AgreeOn known fields others)
    (distinct : ∀ name ∈ known, occurrences fields name ≤ 1) :
    ∀ name ∈ known, occurrences others name ≤ 1 := by
  intro name isKnown
  rw [← agree.occurrences_eq isKnown]
  exact distinct name isKnown

/-- A known name that occurs once at most has the same value in both lists. -/
theorem value?_eq (agree : AgreeOn known fields others) (isKnown : name ∈ known)
    (once : occurrences fields name ≤ 1) : value? others name = value? fields name :=
  (Lookup.lookup_eq_of_perm (agree.filter_perm isKnown) once).symm

theorem value_eq (agree : AgreeOn known fields others) (isKnown : name ∈ known)
    (once : occurrences fields name ≤ 1) : value others name = value fields name := by
  rw [value, value, agree.value?_eq isKnown once]

end AgreeOn

end Record

open Record

variable {fields others : List Urlencoded.Field}

/-! ## What each record wants -/

/-- A draft is read if each of its texts is named once at most, and a missing one is empty. -/
theorem readDraft_of_distinct
    (distinct : ∀ name ∈ ["name", "key"], occurrences fields name ≤ 1) :
    readDraft fields =
      .ok ⟨(fields.lookup "name").getD "", (fields.lookup "key").getD ""⟩ := by
  rw [readDraft, requireDistinct_eq_ok_iff.mpr distinct]
  rfl

theorem exists_readDraft_iff :
    (∃ draft, readDraft fields = .ok draft) ↔
      ∀ name ∈ ["name", "key"], occurrences fields name ≤ 1 := by
  refine exists_requireDistinct_iff.trans (and_iff_left ?_)
  exact ⟨_, rfl⟩

theorem not_exists_readDraft_iff :
    (¬ ∃ draft, readDraft fields = .ok draft) ↔
      1 < occurrences fields "name" ∨ 1 < occurrences fields "key" := by
  rw [exists_readDraft_iff]
  simp only [List.mem_cons, List.not_mem_nil, or_false, forall_eq_or_imp, forall_eq]
  omega

/-- A key is read exactly if each of its texts is named once. -/
theorem exists_readKey_iff :
    (∃ key, readKey fields = .ok key) ↔
      occurrences fields "name" = 1 ∧ occurrences fields "key" = 1 := by
  have texts :
      (∃ key, (do return Key.mk (← value fields "name") (← value fields "key")) = .ok key) ↔
        0 < occurrences fields "name" ∧ 0 < occurrences fields "key" := by
    rw [← exists_value_iff, ← exists_value_iff]
    cases value fields "name" <;> cases value fields "key" <;>
      simp [Bind.bind, Except.bind, Pure.pure, Except.pure]
  refine (exists_requireDistinct_iff.trans (and_congr_right' texts)).trans ?_
  simp only [List.mem_cons, List.not_mem_nil, or_false, forall_eq_or_imp, forall_eq]
  omega

theorem not_exists_readKey_iff :
    (¬ ∃ key, readKey fields = .ok key) ↔
      occurrences fields "name" ≠ 1 ∨ occurrences fields "key" ≠ 1 := by
  rw [exists_readKey_iff]
  exact Decidable.not_and_iff_or_not

/-- The query of the account page is read if each of its parts is named once at most. -/
theorem readPageQuery_of_distinct
    (distinct : ∀ name ∈ ["tab", "modal", "notice"], (fields.map (·.1)).count name ≤ 1) :
    readPageQuery fields =
      .ok ⟨fields.lookup "tab", fields.lookup "modal", fields.lookup "notice"⟩ := by
  rw [readPageQuery, Record.requireDistinct_eq_ok_iff.mpr distinct]
  rfl

theorem exists_readPageQuery_iff :
    (∃ query, readPageQuery fields = .ok query) ↔
      ∀ name ∈ ["tab", "modal", "notice"], occurrences fields name ≤ 1 := by
  refine exists_requireDistinct_iff.trans (and_iff_left ?_)
  exact ⟨_, rfl⟩

theorem not_exists_readPageQuery_iff :
    (¬ ∃ query, readPageQuery fields = .ok query) ↔
      ∃ name ∈ ["tab", "modal", "notice"], 1 < occurrences fields name := by
  rw [exists_readPageQuery_iff]
  simp only [Classical.not_forall, Nat.not_le, exists_prop]

/-! ## Records from fields that agree -/

theorem readDraft_of_agreeOn (agree : AgreeOn ["name", "key"] fields others)
    (reads : ∃ draft, readDraft fields = .ok draft) : readDraft others = readDraft fields := by
  have distinct := exists_readDraft_iff.mp reads
  rw [readDraft, readDraft, requireDistinct_eq_ok_iff.mpr distinct,
    requireDistinct_eq_ok_iff.mpr (agree.distinct distinct),
    agree.value?_eq (by decide) (distinct "name" (by decide)),
    agree.value?_eq (by decide) (distinct "key" (by decide))]

/-- A draft is read as if it were complete, with empty texts for those that are missing. -/
theorem readDraft_of_complete
    (complete : others =
      [("name", (fields.lookup "name").getD ""), ("key", (fields.lookup "key").getD "")])
    (reads : ∃ draft, readDraft fields = .ok draft) : readDraft others = readDraft fields := by
  rw [complete, readDraft_of_distinct (exists_readDraft_iff.mp reads)]
  rfl

theorem readKey_of_agreeOn (agree : AgreeOn ["name", "key"] fields others)
    (reads : ∃ key, readKey fields = .ok key) : readKey others = readKey fields := by
  rcases exists_readKey_iff.mp reads with ⟨named, texted⟩
  have distinct : ∀ name ∈ ["name", "key"], occurrences fields name ≤ 1 := by
    simp [named, texted]
  rw [readKey, readKey, requireDistinct_eq_ok_iff.mpr distinct,
    requireDistinct_eq_ok_iff.mpr (agree.distinct distinct),
    agree.value_eq (by decide) (distinct "name" (by decide)),
    agree.value_eq (by decide) (distinct "key" (by decide))]

theorem readPageQuery_of_agreeOn (agree : AgreeOn ["tab", "modal", "notice"] fields others)
    (reads : ∃ query, readPageQuery fields = .ok query) :
    readPageQuery others = readPageQuery fields := by
  have distinct := exists_readPageQuery_iff.mp reads
  rw [readPageQuery, readPageQuery, requireDistinct_eq_ok_iff.mpr distinct,
    requireDistinct_eq_ok_iff.mpr (agree.distinct distinct),
    agree.value?_eq (by decide) (distinct "tab" (by decide)),
    agree.value?_eq (by decide) (distinct "modal" (by decide)),
    agree.value?_eq (by decide) (distinct "notice" (by decide))]

end AccountPanel.Http
