import Mathlib.Data.List.Nodup

/-!
# Looking up names

The value of a name among pairs is that of the first pair with the name. So only the pairs with this
name matter, and a name that occurs once has the same value in any order of the pairs.
-/

namespace AccountPanel.Lookup

variable {α β : Type} [BEq α]

theorem count_eq_length_filter (pairs : List (α × β)) (name : α) :
    (pairs.map (·.1)).count name = (pairs.filter (·.1 == name)).length := by
  rw [List.count, List.countP_map, List.countP_eq_length_filter]
  rfl

variable [LawfulBEq α] {pairs others : List (α × β)} {name : α}

theorem lookup_eq_head? (pairs : List (α × β)) (name : α) :
    pairs.lookup name = (pairs.filter (·.1 == name)).head?.map (·.2) := by
  induction pairs with
  | nil => rfl
  | cons pair pairs ih =>
      rcases pair with ⟨other, value⟩
      rw [List.lookup_cons]
      by_cases same : name = other
      · simp [same]
      · have differs : (name == other) = false := beq_eq_false_iff_ne.mpr same
        have differsToo : (other == name) = false := beq_eq_false_iff_ne.mpr (Ne.symm same)
        simp [differs, differsToo, ih]

/-- A name that occurs once among the pairs has the same value where its pairs are the same. -/
theorem lookup_eq_of_perm
    (order : (pairs.filter (·.1 == name)).Perm (others.filter (·.1 == name)))
    (once : (pairs.map (·.1)).count name ≤ 1) : pairs.lookup name = others.lookup name := by
  rw [count_eq_length_filter] at once
  rw [lookup_eq_head?, lookup_eq_head?]
  have same : pairs.filter (·.1 == name) = others.filter (·.1 == name) := by
    cases found : pairs.filter (·.1 == name) with
    | nil =>
        rw [found] at order
        exact order.nil_eq
    | cons pair rest =>
        rw [found] at order once
        have alone : rest = [] := by simpa using once
        rw [alone] at order ⊢
        exact List.singleton_perm.mp order
  rw [same]

/-- A name has a value exactly if it occurs. -/
theorem isSome_lookup_iff :
    (pairs.lookup name).isSome = true ↔ 0 < (pairs.map (·.1)).count name := by
  rw [lookup_eq_head?, Option.isSome_map, count_eq_length_filter, List.isSome_head?,
    List.length_pos_iff]

end AccountPanel.Lookup
