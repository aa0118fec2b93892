import AccountPanel.Page.Form
import AccountPanel.Proofs.Markup.Nested

/-!
# The fields of a form

The fields found among the pieces of nested markup. Like elements they are collected at their tags,
and a text area ends where it was closed, so the text it holds cannot take in what follows.
-/

namespace AccountPanel.Page.Form

open Markup Piece

variable {content : List Token} {tag : String} {attributes : List (String × String)}

/-- The field that a tag opens, if it is one. -/
def fieldAt (tag : String) (attributes : List (String × String)) (rest : List Piece) :
    List Urlencoded.Field :=
  if tag = "input" then [(attributeValue attributes "name", attributeValue attributes "value")]
  else if tag = "textarea" then
    [(attributeValue attributes "name", text (rest.takeWhile (· != .closing "textarea")))]
  else []

theorem fieldAt_of_ne (noInput : tag ≠ "input") (noArea : tag ≠ "textarea") (rest : List Piece) :
    fieldAt tag attributes rest = [] := by
  rw [fieldAt, if_neg noInput, if_neg noArea]

theorem collects_fieldsAmong : Collects fieldsAmong fieldAt where
  nil := rfl
  doctype _ := rfl
  character _ _ := rfl
  closing _ _ := rfl
  opening tag attributes rest := by
    rw [fieldsAmong, fieldAt]
    split
    · rfl
    · split <;> rfl
  void tag attributes rest isVoid := by
    have noArea : tag ≠ "textarea" := ne_of_mem_of_not_mem isVoid (by decide)
    rw [fieldAt, fieldAt, if_neg noArea, if_neg noArea]
  closed tag attributes content rest := by
    by_cases area : tag = "textarea"
    · subst area
      rw [fieldAt, fieldAt, takeWhile_closing_append, takeWhile_closing_append]
    · rw [fieldAt, fieldAt, if_neg area, if_neg area]

/-! ## The fields of one element -/

theorem fieldsAmong_input (attributes : List (String × String)) :
    fieldsAmong (pieces [.opening "input" attributes]) =
      [(attributeValue attributes "name", attributeValue attributes "value")] := rfl

/-- An element that is no field has the fields of its content. -/
theorem fieldsAmong_element (container : tag ∉ voidTags) (noArea : tag ≠ "textarea")
    (nested : Nested content) :
    fieldsAmong (pieces (element tag attributes content)) = fieldsAmong (pieces content) := by
  have noInput : tag ≠ "input" := (ne_of_mem_of_not_mem (by decide) container).symm
  rw [collects_fieldsAmong.element nested, fieldAt_of_ne noInput noArea, List.nil_append]

theorem fieldsAmong_textElement (container : tag ∉ voidTags) (noArea : tag ≠ "textarea")
    (text : String) :
    fieldsAmong (pieces (textElement tag attributes text)) = [] := by
  rw [textElement, fieldsAmong_element container noArea (.text text .nil)]
  exact collects_fieldsAmong.text_cons text []

/-- A text area holds its text. -/
theorem fieldsAmong_textArea (text : String) :
    fieldsAmong (pieces (textElement "textarea" attributes text)) =
      [(attributeValue attributes "name", text)] := by
  have noMore : fieldsAmong (pieces [.text text]) = [] := collects_fieldsAmong.text_cons text []
  rw [textElement, collects_fieldsAmong.element (.text text .nil), noMore, List.append_nil, fieldAt,
    if_neg (by decide), if_pos rfl, takeWhile_closing_append, takeWhile_closing_pieces (by simp),
    text_pieces_text]

end AccountPanel.Page.Form
