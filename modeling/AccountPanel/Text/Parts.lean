/-!
# Parts between separators

A list cut at every separator. There is one part more than there are separators, so putting the
separators back gives the list again.
-/

namespace AccountPanel.Text

variable {α : Type} [BEq α]

/-- The parts of a list between the separators. -/
def partsBetween (separator : α) (items : List α) : List (List α) :=
  items.foldr
    (fun item parts =>
      if item == separator then [] :: parts
      else match parts with
        | [] => [[item]]
        | part :: others => (item :: part) :: others)
    [[]]

@[simp] theorem partsBetween_nil (separator : α) : partsBetween separator [] = [[]] := rfl

theorem partsBetween_ne_nil (separator : α) (items : List α) :
    partsBetween separator items ≠ [] := by
  cases items with
  | nil => simp
  | cons item items =>
    simp only [partsBetween, List.foldr_cons]
    split
    · simp
    · split <;> simp

end AccountPanel.Text
