import AccountPanel.Text.Parts

/-!
# Cutting at separators

What stands in front of a list and holds no separator joins the first part of the list. A separator
behind it makes it a part of its own.
-/

namespace AccountPanel.Text

variable {α : Type} [BEq α]

/-- Every list has a first part. -/
theorem exists_partsBetween_eq_cons (separator : α) (items : List α) :
    ∃ head tail, partsBetween separator items = head :: tail := by
  cases parts : partsBetween separator items with
  | nil => exact absurd parts (partsBetween_ne_nil separator items)
  | cons head tail => exact ⟨head, tail, rfl⟩

variable [LawfulBEq α] {separator : α} {front items head : List α} {tail : List (List α)}

@[simp] theorem partsBetween_cons_self (separator : α) (items : List α) :
    partsBetween separator (separator :: items) = [] :: partsBetween separator items := by
  simp [partsBetween]

theorem partsBetween_append_of_notMem (absent : separator ∉ front)
    (parts : partsBetween separator items = head :: tail) :
    partsBetween separator (front ++ items) = (front ++ head) :: tail := by
  induction front with
  | nil => exact parts
  | cons item front ih =>
      have different : item ≠ separator := by
        intro equal
        exact absent (by simp [equal])
      have rest := ih (fun member => absent (List.mem_cons_of_mem item member))
      simp only [partsBetween] at rest
      simp only [partsBetween, List.cons_append, List.foldr_cons, rest]
      simp [different]

/-- What precedes the first separator is the first part. -/
theorem partsBetween_append_cons_of_notMem (absent : separator ∉ front) (items : List α) :
    partsBetween separator (front ++ separator :: items) =
      front :: partsBetween separator items := by
  rw [partsBetween_append_of_notMem absent (partsBetween_cons_self separator items),
    List.append_nil]

/-- A list without separators is its only part. -/
theorem partsBetween_of_notMem (absent : separator ∉ items) :
    partsBetween separator items = [items] := by
  simpa using partsBetween_append_of_notMem absent (partsBetween_nil separator)

end AccountPanel.Text
