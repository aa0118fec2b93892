import AccountPanel.EnvFile.Value

/-!
# Values in different environments

An environment puts texts into a value, but it has no say in how the value is read: the reader goes
through the same modes in every environment, so a text is a value in all of them or in none.
-/

namespace AccountPanel.EnvFile

namespace Reading

/-- Two readings are in step if both have stopped or both are in the same mode. -/
inductive InStep : Option Reading → Option Reading → Prop where
  | stopped : InStep none none
  | running (mode : Mode) (done others : List Char) :
      InStep (some ⟨mode, done⟩) (some ⟨mode, others⟩)

variable (one other : Environment)

/-- One more character keeps two readings in step, whatever texts their environments have. -/
theorem inStep_step? (mode : Mode) (done others : List Char) (character : Char) :
    InStep (step? one ⟨mode, done⟩ character) (step? other ⟨mode, others⟩ character) := by
  cases mode with
  | comment => exact .running ..
  | ended =>
      simp only [step?]
      split
      · exact .running ..
      · split
        · exact .running ..
        · exact .stopped
  | escape outer =>
      simp only [step?]
      cases escaped? character with
      | none => exact .stopped
      | some meant => exact .running ..
  | strong | braced outer letters =>
      simp only [step?]
      split
      · exact .running ..
      · exact .running ..
  | name outer letters | weak | bare =>
      simp only [step?]
      repeat' split
      all_goals exact .running ..

theorem inStep_foldlM (characters : List Char) (mode : Mode) (done others : List Char) :
    InStep (characters.foldlM (step? one) ⟨mode, done⟩)
      (characters.foldlM (step? other) ⟨mode, others⟩) := by
  induction characters generalizing mode done others with
  | nil => exact .running ..
  | cons character characters ih =>
      rw [List.foldlM_cons, List.foldlM_cons]
      have first := inStep_step? one other mode done others character
      generalize step? one ⟨mode, done⟩ character = left at first ⊢
      generalize step? other ⟨mode, others⟩ character = right at first ⊢
      cases first with
      | stopped => exact .stopped
      | running mode done others => exact ih mode done others

/-- Whether a value may end is told by the mode. -/
theorem isSome_finish? (mode : Mode) (done others : List Char) :
    (finish? one ⟨mode, done⟩).isSome = (finish? other ⟨mode, others⟩).isSome := by
  cases mode with
  | braced outer letters => rfl
  | bare | weak | strong | escape outer | name outer letters | ended | comment =>
      simp only [finish?]
      split
      · rfl
      · rfl

end Reading

/-- A text is a value in every environment or in none. -/
theorem isSome_value? (one other : Environment) (characters : List Char) :
    (value? one characters).isSome = (value? other characters).isSome := by
  have read := Reading.inStep_foldlM one other characters .bare [] []
  simp only [value?]
  generalize characters.foldlM (Reading.step? one) {} = left at read ⊢
  generalize characters.foldlM (Reading.step? other) {} = right at read ⊢
  cases read with
  | stopped => rfl
  | running mode done others => exact Reading.isSome_finish? one other mode done others

end AccountPanel.EnvFile
