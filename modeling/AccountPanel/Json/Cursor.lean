/-!
# Places in a JSON text

A cursor is the part of a text that is still to be read, with its place in the whole. Places count
lines from one and the octets of a line from zero.
-/

namespace AccountPanel.Json

/-- A place in a text: the line, and how many octets of it come before. -/
structure Position where
  line : Nat := 1
  column : Nat := 0
  deriving Repr, DecidableEq

/-- The place behind a character. -/
def Position.pass (position : Position) (character : Char) : Position :=
  if character = '\n' then ⟨position.line + 1, 0⟩
  else ⟨position.line, position.column + character.utf8Size⟩

/-- The place that many octets into a text, which may be inside a character, or the end of the
text. -/
def Position.into (octets : Nat) : List Char → Position → Position
  | [], position => position
  | character :: rest, position =>
    if character.utf8Size ≤ octets then
      Position.into (octets - character.utf8Size) rest (position.pass character)
    else ⟨position.line, position.column + octets⟩

/-- The rest of a text. -/
structure Cursor where
  rest : List Char
  position : Position := {}
  deriving Repr, DecidableEq

namespace Cursor

/-- The number of characters that are left. -/
def size (cursor : Cursor) : Nat := cursor.rest.length

/-- The next character. -/
def peek? (cursor : Cursor) : Option Char := cursor.rest.head?

/-- The cursor behind the next character. -/
def advance (cursor : Cursor) : Cursor :=
  match cursor.rest with
  | [] => cursor
  | character :: rest => ⟨rest, cursor.position.pass character⟩

/-- The place that many octets further, or the end of the text. -/
def positionAfter (cursor : Cursor) (octets : Nat) : Position :=
  Position.into octets cursor.rest cursor.position

/-- The longest run of characters that pass `test`, and the cursor behind it. -/
def span (cursor : Cursor) (test : Char → Bool) : List Char × Cursor :=
  let run := cursor.rest.takeWhile test
  (run, ⟨cursor.rest.dropWhile test, run.foldl Position.pass cursor.position⟩)

/-- The characters that may stand between the parts of a JSON text. -/
def isSpace (character : Char) : Bool :=
  character == ' ' || character == '\n' || character == '\t' || character == '\r'

/-- The cursor behind the space at it. -/
def skipSpace (cursor : Cursor) : Cursor := (cursor.span isSpace).2

theorem size_advance_lt {cursor : Cursor} {character : Char}
    (next : cursor.peek? = some character) : cursor.advance.size < cursor.size := by
  obtain ⟨rest, position⟩ := cursor
  cases rest with
  | nil => simp [peek?] at next
  | cons first rest => simp [advance, size]

theorem size_advance_le (cursor : Cursor) : cursor.advance.size ≤ cursor.size := by
  obtain ⟨rest, position⟩ := cursor
  cases rest <;> simp [advance, size]

theorem size_span_le (cursor : Cursor) (test : Char → Bool) :
    (cursor.span test).2.size ≤ cursor.size := by
  simpa [span, size] using (List.dropWhile_suffix test).length_le

theorem size_span_lt {cursor : Cursor} {test : Char → Bool} {character : Char}
    (next : cursor.peek? = some character) (passes : test character) :
    (cursor.span test).2.size < cursor.size := by
  obtain ⟨rest, position⟩ := cursor
  cases rest with
  | nil => simp [peek?] at next
  | cons first rest =>
    simp only [peek?, List.head?_cons, Option.some.injEq] at next
    subst next
    simpa [span, size, passes, Nat.lt_succ_iff] using (List.dropWhile_suffix test).length_le

theorem size_skipSpace_le (cursor : Cursor) : cursor.skipSpace.size ≤ cursor.size :=
  size_span_le cursor isSpace

end Cursor

end AccountPanel.Json
