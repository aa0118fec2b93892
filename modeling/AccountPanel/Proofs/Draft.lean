import AccountPanel.Key
import AccountPanel.Proofs.Text.Blank

/-!
# Drafts that stand for keys

A draft stands for a key exactly if both of its texts are more than blanks, and the key has the
trimmed texts.
-/

namespace AccountPanel.Draft

variable (draft : Draft)

/-- Are both texts of a draft more than blanks? -/
def isFilled : Bool := !Text.isBlankText draft.name && !Text.isBlankText draft.text

theorem isFilled_iff :
    draft.isFilled = true ↔ draft.trimmed.name ≠ "" ∧ draft.trimmed.text ≠ "" := by
  have blank : ∀ text, Text.trim text ≠ "" ↔ Text.isBlankText text = false := by
    intro text
    rw [ne_eq, Text.trim_eq_empty_iff, Bool.not_eq_true]
  simp only [isFilled, Bool.and_eq_true, Bool.not_eq_true', trimmed, blank]

theorem isEmpty_errors : draft.errors.isEmpty = draft.isFilled := by
  rw [Bool.eq_iff_iff, isFilled_iff, FieldErrors.isEmpty, Bool.and_eq_true]
  simp only [errors, String.isEmpty_iff, ne_eq]
  constructor <;> rintro ⟨named, texted⟩ <;> simp_all

theorem toKey_of_filled (filled : draft.isFilled = true) : draft.toKey = .ok draft.trimmed := by
  rw [toKey, isEmpty_errors, if_pos filled]

theorem toKey_of_unfilled (unfilled : draft.isFilled = false) :
    draft.toKey = .error draft.errors := by
  rw [toKey, isEmpty_errors, if_neg (by simp [unfilled])]

/-- A draft that is filled in has no message beside it. -/
theorem errors_of_filled {draft : Draft} (filled : draft.isFilled = true) : draft.errors = {} := by
  rcases (draft.isFilled_iff).mp filled with ⟨named, texted⟩
  simp [errors, named, texted]

/-! ## Drafts of keys -/

@[simp] theorem trimmed_ofKey_trimmed : (ofKey draft.trimmed).trimmed = draft.trimmed := by
  simp [trimmed, ofKey]

/-- Trimming fills in nothing and leaves nothing unfilled. -/
theorem isFilled_ofKey_trimmed : (ofKey draft.trimmed).isFilled = draft.isFilled := by
  rw [Bool.eq_iff_iff, isFilled_iff, isFilled_iff, trimmed_ofKey_trimmed]

end AccountPanel.Draft
