import AccountPanel.KeyFile
import AccountPanel.Proofs.Text.Blank

/-!
# Loaded keys

The texts of a key that was loaded from a key file are tidy and hold no line breaks. Line breaks are
taken out of trimmed texts only, whose ends are no line breaks, so no new blanks come to the ends.
-/

namespace AccountPanel.KeyFile

theorem isLineBreak_eq_false_iff {character : Char} :
    isLineBreak character = false ↔ character ≠ '\r' ∧ character ≠ '\n' := by
  rw [isLineBreak, Bool.or_eq_false_iff, beq_eq_false_iff_ne, beq_eq_false_iff_ne]

theorem isLineBreak_eq_false_of_not_isBlank {character : Char}
    (visible : Text.isBlank character = false) : isLineBreak character = false := by
  rw [isLineBreak_eq_false_iff]
  constructor
  · rintro rfl
    exact absurd visible (by decide)
  · rintro rfl
    exact absurd visible (by decide)

theorem isTidy_singleLine (text : String) : Text.isTidy (singleLine text) = true := by
  rw [Text.isTidy, singleLine, String.toList_ofList]
  apply Text.isBareAround_filter
  · intro character visible
    rw [isLineBreak_eq_false_of_not_isBlank visible]
    rfl
  · exact Text.isTidy_trim text

theorem isLineBreak_of_mem_singleLine {text : String} {character : Char}
    (member : character ∈ (singleLine text).toList) : isLineBreak character = false := by
  rw [singleLine, String.toList_ofList, List.mem_filter] at member
  simpa using member.2

theorem mapError_eq_ok_iff {ε δ α : Type} {result : Except ε α} {words : ε → δ} {value : α} :
    result.mapError words = .ok value ↔ result = .ok value := by
  cases result with
  | error cause => simp [Except.mapError]
  | ok other => simp [Except.mapError]

/-- Every loaded key is a key of the file on single lines. -/
theorem exists_singleLineKey {read : Files.Reader} {path : String} {keys : List Key}
    (loaded : loadFile read path = .ok keys) :
    ∀ key ∈ keys, ∃ written, key = singleLineKey written := by
  simp only [loadFile, load, Json.bind_eq_ok_iff, mapError_eq_ok_iff] at loaded
  rcases loaded with ⟨text, -, listed, -, kept⟩
  cases kept
  intro key member
  rcases List.mem_map.mp member with ⟨written, -, rfl⟩
  exact ⟨written, rfl⟩

end AccountPanel.KeyFile
