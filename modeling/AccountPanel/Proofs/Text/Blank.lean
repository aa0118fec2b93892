import AccountPanel.Text.Blank
import Mathlib.Data.List.TakeWhile

/-!
# Blank texts

A text is blank if it holds blank characters alone. Exactly the blank texts are trimmed to nothing.
A text is tidy if it neither starts nor ends with a blank. Trimmed texts are tidy, and trimming
leaves tidy texts as they are.
-/

namespace AccountPanel.Text

/-- Does a text hold blanks alone? -/
def isBlankText (text : String) : Bool := text.toList.all isBlank

theorem dropAround_eq_nil_iff {α : Type} (test : α → Bool) (items : List α) :
    dropAround test items = [] ↔ ∀ item ∈ items, test item = true := by
  rw [dropAround, dropTrailing, List.reverse_eq_nil_iff, List.dropWhile_eq_nil_iff]
  simp only [List.mem_reverse]
  constructor
  · intro trailing
    rw [← List.dropWhile_eq_nil_iff]
    -- What is left behind the leading run would start with an item that fails the test.
    cases left : items.dropWhile test with
    | nil => rfl
    | cons item rest =>
        have fails : test item = false := by
          simpa [left] using List.head?_dropWhile_not test items
        rw [left] at trailing
        rw [trailing item List.mem_cons_self] at fails
        cases fails
  · intro all item member
    rw [List.dropWhile_eq_nil_iff.mpr all] at member
    cases member

/-- What is dropped at the end of a list passes the test. -/
theorem exists_dropTrailing_split {α : Type} (test : α → Bool) (items : List α) :
    ∃ behind, items = dropTrailing test items ++ behind ∧ ∀ item ∈ behind, test item = true := by
  refine ⟨(items.reverse.takeWhile test).reverse, ?_, ?_⟩
  · rw [dropTrailing, ← List.reverse_append, List.takeWhile_append_dropWhile, List.reverse_reverse]
  · intro item member
    exact List.mem_takeWhile_imp (List.mem_reverse.mp member)

/-- What is dropped at the ends of a list passes the test. -/
theorem exists_dropAround_split {α : Type} (test : α → Bool) (items : List α) :
    ∃ front behind, items = front ++ dropAround test items ++ behind ∧
      ∀ item ∈ front ++ behind, test item = true := by
  rcases exists_dropTrailing_split test (items.dropWhile test) with ⟨behind, split, trailing⟩
  refine ⟨items.takeWhile test, behind, ?_, ?_⟩
  · rw [dropAround, List.append_assoc, ← split, List.takeWhile_append_dropWhile]
  · intro item member
    rcases List.mem_append.mp member with leading | last
    · exact List.mem_takeWhile_imp leading
    · exact trailing item last

theorem trim_eq_empty_iff (text : String) : trim text = "" ↔ isBlankText text = true := by
  rw [isBlankText, List.all_eq_true, ← dropAround_eq_nil_iff, ← toList_trim,
    String.toList_eq_nil_iff]

/-! ## Tidy texts -/

/-- Does a list neither start nor end with an item that passes `test`? -/
def isBareAround {α : Type} (test : α → Bool) (items : List α) : Bool :=
  items.head?.all (! test ·) && items.getLast?.all (! test ·)

/-- Does a text neither start nor end with a blank? -/
def isTidy (text : String) : Bool := isBareAround isBlank text.toList

section BareAround

variable {α : Type} {test : α → Bool} {items : List α}

theorem isBareAround_iff :
    isBareAround test items = true ↔
      items.head?.all (! test ·) = true ∧ items.reverse.head?.all (! test ·) = true := by
  rw [isBareAround, Bool.and_eq_true, List.head?_reverse]

theorem head?_dropWhile_all (test : α → Bool) (items : List α) :
    (items.dropWhile test).head?.all (! test ·) = true := by
  have bare := List.head?_dropWhile_not test items
  cases first : (items.dropWhile test).head? with
  | none => rfl
  | some item =>
      rw [first] at bare
      simpa using bare

theorem dropWhile_of_head? (bare : items.head?.all (! test ·) = true) :
    items.dropWhile test = items := by
  cases items with
  | nil => rfl
  | cons item items =>
      rw [List.head?_cons, Option.all_some, Bool.not_eq_true'] at bare
      exact List.dropWhile_cons_of_neg (Bool.eq_false_iff.mp bare)

theorem dropTrailing_isPrefix (test : α → Bool) (items : List α) :
    dropTrailing test items <+: items := by
  rw [← List.reverse_suffix, dropTrailing, List.reverse_reverse]
  exact List.dropWhile_suffix test

/-- What is left when the end of a list is dropped starts like the list. -/
theorem head?_dropTrailing_all {holds : α → Bool} (first : items.head?.all holds = true) :
    (dropTrailing test items).head?.all holds = true := by
  rcases dropTrailing_isPrefix test items with ⟨behind, split⟩
  cases left : dropTrailing test items with
  | nil => rfl
  | cons item front =>
      rw [left] at split
      rw [← split] at first
      exact first

theorem isBareAround_dropAround (test : α → Bool) (items : List α) :
    isBareAround test (dropAround test items) = true := by
  refine isBareAround_iff.mpr ⟨head?_dropTrailing_all (head?_dropWhile_all test items), ?_⟩
  rw [dropAround, dropTrailing, List.reverse_reverse]
  exact head?_dropWhile_all test _

theorem dropAround_of_isBareAround (bare : isBareAround test items = true) :
    dropAround test items = items := by
  rcases isBareAround_iff.mp bare with ⟨first, last⟩
  rw [dropAround, dropWhile_of_head? first, dropTrailing, dropWhile_of_head? last,
    List.reverse_reverse]

/-- To leave out items that pass the test only keeps both ends bare. -/
theorem isBareAround_filter {keep : α → Bool} (kept : ∀ item, test item = false → keep item = true)
    (bare : isBareAround test items = true) : isBareAround test (items.filter keep) = true := by
  have head : ∀ items : List α, items.head?.all (! test ·) = true →
      (items.filter keep).head?.all (! test ·) = true := by
    intro items first
    cases items with
    | nil => rfl
    | cons item items =>
        have fails : test item = false := by simpa using first
        rw [List.filter_cons_of_pos (kept item fails)]
        exact first
  rcases isBareAround_iff.mp bare with ⟨first, last⟩
  refine isBareAround_iff.mpr ⟨head items first, ?_⟩
  rw [← List.filter_reverse]
  exact head items.reverse last

end BareAround

/-- A text is tidy if neither its first nor its last character is blank. -/
theorem isTidy_iff {text : String} :
    isTidy text = true ↔
      text.toList.head?.all (! isBlank ·) = true ∧
        text.toList.getLast?.all (! isBlank ·) = true := by
  rw [isTidy, isBareAround, Bool.and_eq_true]

theorem isTidy_trim (text : String) : isTidy (trim text) = true := by
  rw [isTidy, toList_trim]
  exact isBareAround_dropAround isBlank text.toList

theorem trim_of_isTidy {text : String} (tidy : isTidy text = true) : trim text = text := by
  rw [trim, dropAround_of_isBareAround tidy, String.ofList_toList]

@[simp] theorem trim_trim (text : String) : trim (trim text) = trim text :=
  trim_of_isTidy (isTidy_trim text)

end AccountPanel.Text
