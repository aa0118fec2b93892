import AccountPanel.Proofs.Text.Blank
import Mathlib.Data.List.Basic

/-!
# Ends of lists and texts

What is left when the end of a list is dropped does not end with an item that passes the test. So a
text without the slashes at its end is the same for any number of them, and a space beside a text
goes when the text is trimmed.
-/

namespace AccountPanel.Text

section Lists

variable {α : Type} {test : α → Bool} {items front behind : List α}

/-- What is left does not end with an item that passes the test. -/
theorem getLast?_dropTrailing_all (test : α → Bool) (items : List α) :
    (dropTrailing test items).getLast?.all (! test ·) = true := by
  rw [dropTrailing, List.getLast?_reverse]
  exact head?_dropWhile_all test items.reverse

theorem dropTrailing_of_getLast? (bare : items.getLast?.all (! test ·) = true) :
    dropTrailing test items = items := by
  rw [← List.head?_reverse] at bare
  rw [dropTrailing, dropWhile_of_head? bare, List.reverse_reverse]

theorem dropTrailing_append_of_forall (pass : ∀ item ∈ behind, test item = true) :
    dropTrailing test (front ++ behind) = dropTrailing test front := by
  have reversed : ∀ item ∈ behind.reverse, test item = true := fun item member =>
    pass item (List.mem_reverse.mp member)
  rw [dropTrailing, List.reverse_append, List.dropWhile_append_of_pos reversed, dropTrailing]

theorem dropAround_append_of_forall (pass : ∀ item ∈ behind, test item = true) :
    dropAround test (front ++ behind) = dropAround test front := by
  rw [dropAround, dropAround, List.dropWhile_append]
  split
  next nothing => rw [List.dropWhile_eq_nil_iff.mpr pass, List.isEmpty_iff.mp nothing]
  next => exact dropTrailing_append_of_forall pass

end Lists

/-! ## Slashes at the end -/

/-- A text of slashes alone. -/
def slashes (count : Nat) : String := String.ofList (List.replicate count '/')

@[simp] theorem toList_slashes (count : Nat) :
    (slashes count).toList = List.replicate count '/' := by
  simp [slashes]

/-- A text without the slashes at its end, and then the slashes. -/
theorem exists_eq_append_slashes (text : String) :
    ∃ count, text = dropTrailingSlashes text ++ slashes count := by
  rcases exists_dropTrailing_split (· == '/') text.toList with ⟨behind, split, all⟩
  refine ⟨behind.length, String.toList_inj.mp ?_⟩
  have same : behind = List.replicate behind.length '/' :=
    List.eq_replicate_of_mem fun character member => eq_of_beq (all character member)
  rw [String.toList_append, toList_dropTrailingSlashes, toList_slashes, ← same, ← split]

theorem getLast?_dropTrailingSlashes_ne (text : String) :
    (dropTrailingSlashes text).toList.getLast? ≠ some '/' := by
  have bare := getLast?_dropTrailing_all (· == '/') text.toList
  intro last
  rw [← toList_dropTrailingSlashes, last] at bare
  exact absurd bare (by decide)

theorem dropTrailingSlashes_of_getLast?_ne {text : String}
    (bare : text.toList.getLast? ≠ some '/') : dropTrailingSlashes text = text := by
  rw [dropTrailingSlashes, dropTrailing_of_getLast?, String.ofList_toList]
  cases last : text.toList.getLast? with
  | none => rfl
  | some character =>
      rw [last] at bare
      have other : character ≠ '/' := fun same => bare (congrArg some same)
      simpa using other

@[simp] theorem dropTrailingSlashes_dropTrailingSlashes (text : String) :
    dropTrailingSlashes (dropTrailingSlashes text) = dropTrailingSlashes text :=
  dropTrailingSlashes_of_getLast?_ne (getLast?_dropTrailingSlashes_ne text)

@[simp] theorem dropTrailingSlashes_append_slashes (text : String) (count : Nat) :
    dropTrailingSlashes (text ++ slashes count) = dropTrailingSlashes text := by
  have all : ∀ character ∈ List.replicate count '/', (character == '/') = true := by
    intro character member
    exact beq_iff_eq.mpr (List.eq_of_mem_replicate member)
  rw [dropTrailingSlashes, String.toList_append, toList_slashes,
    dropTrailing_append_of_forall all, dropTrailingSlashes]

/-! ## Spaces beside a text -/

theorem isBlank_of_mem_space : ∀ character ∈ " ".toList, isBlank character = true :=
  List.all_eq_true.mp (by decide)

theorem trim_append_space (text : String) : trim (text ++ " ") = trim text := by
  rw [trim, String.toList_append, dropAround_append_of_forall isBlank_of_mem_space, trim]

theorem trim_space_append (text : String) : trim (" " ++ text) = trim text := by
  rw [trim, String.toList_append, dropAround, List.dropWhile_append_of_pos isBlank_of_mem_space,
    ← dropAround, trim]

/-- Tidy texts make a tidy text, whatever stands between them. -/
theorem isTidy_append {one other : String} (between : String) (filled : one ≠ "")
    (otherFilled : other ≠ "") (tidy : isTidy one = true) (otherTidy : isTidy other = true) :
    isTidy (one ++ between ++ other) = true := by
  refine isTidy_iff.mpr ⟨?_, ?_⟩
  · rw [String.append_assoc, String.toList_append,
      List.head?_append_of_ne_nil _ (by simpa using filled)]
    exact (isTidy_iff.mp tidy).1
  · rw [String.toList_append, List.getLast?_append_of_ne_nil _ (by simpa using otherFilled)]
    exact (isTidy_iff.mp otherTidy).2

end AccountPanel.Text
