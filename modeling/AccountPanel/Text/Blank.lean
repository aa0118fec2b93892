/-!
# Blank characters

The characters with the Unicode property `White_Space`, and the trimming that user text goes
through. Trimming removes characters at the ends of a text and never looks at its inside.
-/

namespace AccountPanel.Text

/-- The Unicode property `White_Space`. -/
def isBlank (character : Char) : Bool :=
  let code := character.toNat
  (0x9 ≤ code && code ≤ 0xD) || code == 0x20 || code == 0x85 || code == 0xA0 ||
    code == 0x1680 || (0x2000 ≤ code && code ≤ 0x200A) || code == 0x2028 || code == 0x2029 ||
    code == 0x202F || code == 0x205F || code == 0x3000

/-- Remove the longest run at the end of a list whose elements all pass `test`. -/
def dropTrailing {α : Type} (test : α → Bool) (items : List α) : List α :=
  (items.reverse.dropWhile test).reverse

/-- Remove the longest runs at both ends of a list whose elements all pass `test`. -/
def dropAround {α : Type} (test : α → Bool) (items : List α) : List α :=
  dropTrailing test (items.dropWhile test)

/-- Remove the blanks at both ends of a text. -/
def trim (text : String) : String :=
  String.ofList (dropAround isBlank text.toList)

/-- Remove every slash at the start of a text. -/
def dropLeadingSlashes (text : String) : String :=
  String.ofList (text.toList.dropWhile (· == '/'))

/-- Remove every slash at the end of a text. -/
def dropTrailingSlashes (text : String) : String :=
  String.ofList (dropTrailing (· == '/') text.toList)

@[simp] theorem toList_trim (text : String) :
    (trim text).toList = dropAround isBlank text.toList := by
  simp [trim]

@[simp] theorem toList_dropLeadingSlashes (text : String) :
    (dropLeadingSlashes text).toList = text.toList.dropWhile (· == '/') := by
  simp [dropLeadingSlashes]

@[simp] theorem toList_dropTrailingSlashes (text : String) :
    (dropTrailingSlashes text).toList = dropTrailing (· == '/') text.toList := by
  simp [dropTrailingSlashes]

end AccountPanel.Text
