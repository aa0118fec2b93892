import AccountPanel.Page.Form
import AccountPanel.Proofs.KeyFile

/-!
# Line breaks in a browser

A browser reads every line break of a page as a line feed, and sends every line feed of a form as a
carriage return and a line feed. So a value comes back as it was exactly if carriage returns and
line feeds stand only side by side in it. What a browser has sent once is such a value, and trimming
leaves a value such, because a pair of the two is blank as a whole.
-/

namespace AccountPanel.Browser

/-- The characters of a page as a browser reads them. -/
def parsed : List Char → List Char
  | [] => []
  | '\r' :: '\n' :: rest => '\n' :: parsed rest
  | character :: rest => (if character = '\r' then '\n' else character) :: parsed rest

/-- The characters of a field as a browser sends them. -/
def sent (characters : List Char) : List Char :=
  characters.flatMap fun character => if character = '\n' then ['\r', '\n'] else [character]

/-- What a browser sends for a field that a page filled in. -/
def returned (value : String) : String := String.ofList (sent (parsed value.toList))

/-- The fields that a browser sends for a form as it stands on a page. -/
def posted (form : Page.Form) : List Urlencoded.Field :=
  form.fields.map fun (name, value) => (returned name, returned value)

/-- Carriage returns and line feeds stand only side by side, in this order. -/
inductive Paired : List Char → Prop where
  | nil : Paired []
  | pair {rest : List Char} (paired : Paired rest) : Paired ('\r' :: '\n' :: rest)
  | cons {character : Char} {rest : List Char} (visible : KeyFile.isLineBreak character = false)
      (paired : Paired rest) : Paired (character :: rest)

variable {characters rest : List Char} {character : Char}

/-! ## Values that come back -/

theorem parsed_cons_of_ne (different : character ≠ '\r') :
    parsed (character :: rest) = character :: parsed rest := by
  rw [parsed, if_neg different]
  intro others start
  exact absurd start different

theorem notMem_parsed (characters : List Char) : '\r' ∉ parsed characters := by
  fun_induction parsed characters with
  | case1 => exact List.not_mem_nil
  | case2 rest ih => exact List.not_mem_cons_of_ne_of_not_mem (by decide) ih
  | case3 character rest other ih =>
      refine List.not_mem_cons_of_ne_of_not_mem ?_ ih
      split
      · decide
      next different => exact Ne.symm different

/-- Where carriage returns and line feeds stand side by side, a browser sends what it was given. -/
theorem Paired.sent_parsed (paired : Paired characters) :
    sent (parsed characters) = characters := by
  induction paired with
  | nil => rfl
  | @pair rest paired ih =>
      change ['\r', '\n'] ++ sent (parsed rest) = _
      rw [ih]
      rfl
  | @cons character rest visible paired ih =>
      rcases KeyFile.isLineBreak_eq_false_iff.mp visible with ⟨noReturn, noFeed⟩
      rw [parsed_cons_of_ne noReturn, sent, List.flatMap_cons, if_neg noFeed, ← sent, ih]
      rfl

/-- A browser sends no line feed without a carriage return. -/
theorem paired_sent (absent : '\r' ∉ characters) : Paired (sent characters) := by
  induction characters with
  | nil => exact .nil
  | cons character characters ih =>
      rw [List.mem_cons, not_or] at absent
      rw [sent, List.flatMap_cons, ← sent]
      split
      · exact .pair (ih absent.2)
      next noFeed =>
        exact .cons (KeyFile.isLineBreak_eq_false_iff.mpr ⟨Ne.symm absent.1, noFeed⟩) (ih absent.2)

theorem returned_eq_self_iff {value : String} : returned value = value ↔ Paired value.toList := by
  have lists : returned value = value ↔ sent (parsed value.toList) = value.toList := by
    rw [returned, ← String.toList_inj, String.toList_ofList]
  rw [lists]
  constructor
  · intro same
    rw [← same]
    exact paired_sent (notMem_parsed value.toList)
  · exact Paired.sent_parsed

/-- What a browser has sent comes back as it was. -/
theorem returned_returned (value : String) : returned (returned value) = returned value := by
  rw [returned_eq_self_iff, returned, String.toList_ofList]
  exact paired_sent (notMem_parsed value.toList)

/-! ## Stored values -/

/-- A value on a single line comes back as it was. -/
theorem paired_of_forall
    (visible : ∀ character ∈ characters, KeyFile.isLineBreak character = false) :
    Paired characters := by
  induction characters with
  | nil => exact .nil
  | cons character characters ih =>
      rcases List.forall_mem_cons.mp visible with ⟨first, rest⟩
      exact .cons first (ih rest)

theorem Paired.dropWhile (paired : Paired characters) :
    Paired (characters.dropWhile Text.isBlank) := by
  induction paired with
  | nil => exact .nil
  | pair paired ih => exact ih
  | @cons character rest visible paired ih =>
      cases blank : Text.isBlank character with
      | true =>
          rw [List.dropWhile_cons_of_pos blank]
          exact ih
      | false =>
          rw [List.dropWhile_cons_of_neg (Bool.eq_false_iff.mp blank)]
          exact .cons visible paired

/-- The front of such a value is one too, unless it ends between the two characters of a pair. -/
theorem Paired.of_append {front behind : List Char} (paired : Paired (front ++ behind))
    (whole : front.getLast? ≠ some '\r') : Paired front := by
  have last : ∀ (first : Char) (others : List Char), (first :: others).getLast? ≠ some '\r' →
      others.getLast? ≠ some '\r' := by
    intro first others whole same
    rw [List.getLast?_cons, same] at whole
    exact whole rfl
  generalize joined : front ++ behind = characters at paired
  induction paired generalizing front with
  | nil =>
      rw [(List.append_eq_nil_iff.mp joined).1]
      exact .nil
  | pair paired ih =>
      cases front with
      | nil => exact .nil
      | cons first front =>
          rcases List.cons.inj joined with ⟨rfl, others⟩
          cases front with
          | nil => exact absurd rfl whole
          | cons second front =>
              rcases List.cons.inj others with ⟨rfl, left⟩
              exact .pair (ih (last _ _ (last _ _ whole)) left)
  | cons visible paired ih =>
      cases front with
      | nil => exact .nil
      | cons first front =>
          rcases List.cons.inj joined with ⟨rfl, left⟩
          exact .cons visible (ih (last _ _ whole) left)

/-- Trimming takes pairs out as a whole. -/
theorem Paired.trim {text : String} (paired : Paired text.toList) :
    Paired (Text.trim text).toList := by
  have tidy := Text.isTidy_trim text
  rw [Text.isTidy, Text.isBareAround, Bool.and_eq_true] at tidy
  have whole : (Text.trim text).toList.getLast? ≠ some '\r' := by
    intro same
    rw [same] at tidy
    exact absurd tidy.2 (by decide)
  have front : (Text.trim text).toList <+: text.toList.dropWhile Text.isBlank := by
    rw [Text.toList_trim, Text.dropAround]
    exact Text.dropTrailing_isPrefix Text.isBlank _
  rcases front with ⟨behind, split⟩
  have rest := paired.dropWhile
  rw [← split] at rest
  exact rest.of_append whole

end AccountPanel.Browser
