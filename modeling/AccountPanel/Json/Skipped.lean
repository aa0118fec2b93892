import AccountPanel.Json.Number
import AccountPanel.Json.Text

/-!
# Values that nobody asked for

Passing over a value of any depth. The lists and objects that are open are kept in a list of their
own, the innermost first.
-/

namespace AccountPanel.Json

/-- A list or an object that has begun. -/
inductive Bracket where
  | list
  | object
  deriving Repr, DecidableEq

namespace Bracket

/-- The character that ends it. -/
def closing : Bracket → Char
  | .list => ']'
  | .object => '\x7d'

/-- What is being read inside it. -/
def part : Bracket → Part
  | .list => .list
  | .object => .object

end Bracket

namespace Cursor

/-- A value that holds no others and so opens no bracket. -/
def unnested (skipped : Except Error Cursor) : Except Error (Option Bracket × Cursor) :=
  match skipped with
  | .error error => .error error
  | .ok behind => .ok (none, behind)

/-- Pass over a value that holds no others, or over the opening of one that does. -/
def skipStart (cursor : Cursor) : Except Error (Option Bracket × Cursor) :=
  match cursor.peek? with
  | none => cursor.failNext (.endInside .value)
  | some '[' => .ok (some .list, cursor.advance)
  | some '\x7b' => .ok (some .object, cursor.advance)
  | some '"' => unnested cursor.advance.skipString
  | some 'n' => unnested (cursor.advance.word ['u', 'l', 'l'])
  | some 't' => unnested (cursor.advance.word ['r', 'u', 'e'])
  | some 'f' => unnested (cursor.advance.word ['a', 'l', 's', 'e'])
  | some '-' => unnested cursor.advance.skipNumber
  | some character =>
    if character.isDigit then unnested cursor.skipNumber
    else cursor.failNext .valueExpected

/-- Take the colon behind the name of a field. -/
def colon (cursor : Cursor) : Except Error Cursor :=
  let cursor := cursor.skipSpace
  match cursor.peek? with
  | none => cursor.failNext (.endInside .object)
  | some ':' => .ok cursor.advance
  | some _ => cursor.failNext .colonExpected

/-- Pass over the name of a field and the colon behind it. -/
def skipFieldName (cursor : Cursor) : Except Error Cursor :=
  let cursor := cursor.skipSpace
  match cursor.peek? with
  | none => cursor.failNext (.endInside .object)
  | some '"' => do (← cursor.advance.skipString).colon
  | some _ => cursor.failNext .keyExpected

/-- Pass over what comes before the next value in a bracket. -/
def skipToValue (cursor : Cursor) : Bracket → Except Error Cursor
  | .list => .ok cursor
  | .object => cursor.skipFieldName

/-- Pass over what stands between two values: the brackets that end, and the comma, which only
stands behind a value. The brackets that are still open are returned; none is open behind a whole
value. -/
def skipBetween (cursor : Cursor) (afterValue : Bool) :
    List Bracket → Except Error (List Bracket × Cursor)
  | [] => .ok ([], cursor)
  | bracket :: outer =>
    let cursor := cursor.skipSpace
    match cursor.peek? with
    | none => cursor.failNext (.endInside bracket.part)
    | some character =>
      if character = bracket.closing then cursor.advance.skipBetween true outer
      else if !afterValue then do
        return (bracket :: outer, ← cursor.skipToValue bracket)
      else if character = ',' then do
        return (bracket :: outer, ← cursor.advance.skipToValue bracket)
      else cursor.failNext (.commaOrEndExpected bracket.closing)

theorem eq_ok_of_unnested {skipped : Except Error Cursor} {opened : Option Bracket}
    {behind : Cursor} (taken : unnested skipped = .ok (opened, behind)) :
    skipped = .ok behind := by
  unfold unnested at taken
  split at taken
  · simp at taken
  · simp only [Except.ok.injEq, Prod.mk.injEq] at taken
    rw [taken.2]

theorem size_skipStart_lt {cursor behind : Cursor} {opened : Option Bracket}
    (taken : cursor.skipStart = .ok (opened, behind)) : behind.size < cursor.size := by
  unfold skipStart at taken
  split at taken <;> rename_i next
  · simp at taken
  · simp only [Except.ok.injEq, Prod.mk.injEq] at taken
    exact taken.2 ▸ size_advance_lt next
  · simp only [Except.ok.injEq, Prod.mk.injEq] at taken
    exact taken.2 ▸ size_advance_lt next
  · exact Nat.lt_trans (size_skipString_lt (eq_ok_of_unnested taken)) (size_advance_lt next)
  · exact Nat.lt_of_le_of_lt (size_word_le (eq_ok_of_unnested taken)) (size_advance_lt next)
  · exact Nat.lt_of_le_of_lt (size_word_le (eq_ok_of_unnested taken)) (size_advance_lt next)
  · exact Nat.lt_of_le_of_lt (size_word_le (eq_ok_of_unnested taken)) (size_advance_lt next)
  · exact Nat.lt_trans (size_skipNumber_lt (eq_ok_of_unnested taken)) (size_advance_lt next)
  · split at taken
    · exact size_skipNumber_lt (eq_ok_of_unnested taken)
    · simp at taken

theorem size_colon_le {cursor behind : Cursor} (taken : cursor.colon = .ok behind) :
    behind.size ≤ cursor.size := by
  have space := size_skipSpace_le cursor
  unfold colon at taken
  simp only at taken
  split at taken
  · simp at taken
  · simp only [Except.ok.injEq] at taken
    exact taken ▸ Nat.le_trans (size_advance_le _) space
  · simp at taken

theorem size_skipToValue_le {cursor behind : Cursor} {bracket : Bracket}
    (taken : cursor.skipToValue bracket = .ok behind) : behind.size ≤ cursor.size := by
  have space := size_skipSpace_le cursor
  unfold skipToValue at taken
  split at taken
  · simp only [Except.ok.injEq] at taken
    exact taken ▸ Nat.le_refl _
  · unfold skipFieldName at taken
    simp only at taken
    split at taken
    · simp at taken
    · simp only [bind_eq_ok_iff] at taken
      obtain ⟨_, text, colon⟩ := taken
      have := size_colon_le colon
      have := size_skipString_lt text
      have := size_advance_le cursor.skipSpace
      omega
    · simp at taken

theorem size_skipBetween_le {cursor behind : Cursor} {afterValue : Bool}
    {opened still : List Bracket}
    (taken : cursor.skipBetween afterValue opened = .ok (still, behind)) :
    behind.size ≤ cursor.size := by
  induction opened generalizing cursor afterValue with
  | nil =>
    simp only [skipBetween, Except.ok.injEq, Prod.mk.injEq] at taken
    exact taken.2 ▸ Nat.le_refl _
  | cons bracket outer hypothesis =>
    have space := size_skipSpace_le cursor
    have further := size_advance_le cursor.skipSpace
    simp only [skipBetween] at taken
    split at taken
    · simp at taken
    · split at taken
      · exact Nat.le_trans (hypothesis taken) (Nat.le_trans further space)
      · split at taken
        · simp only [bind_eq_ok_iff, pure, Except.pure, Except.ok.injEq, Prod.mk.injEq,
            exists_eq_right_right] at taken
          exact Nat.le_trans (size_skipToValue_le taken.1) space
        · split at taken
          · simp only [bind_eq_ok_iff, pure, Except.pure, Except.ok.injEq, Prod.mk.injEq,
              exists_eq_right_right] at taken
            exact Nat.le_trans (size_skipToValue_le taken.1) (Nat.le_trans further space)
          · simp at taken

/-- Pass over a value inside open brackets, and over everything up to the end of the outermost of
them. -/
def skipIn (cursor : Cursor) (opened : List Bracket) : Except Error Cursor :=
  match _started : cursor.skipSpace.skipStart with
  | .error error => .error error
  | .ok (bracket, inside) =>
    match _between : inside.skipBetween bracket.isNone (bracket.toList ++ opened) with
    | .error error => .error error
    | .ok ([], behind) => .ok behind
    | .ok (still, behind) => behind.skipIn still
termination_by cursor.size
decreasing_by
  have := size_skipStart_lt _started
  have := size_skipSpace_le cursor
  have := size_skipBetween_le _between
  omega

/-- Pass over a value. -/
def skipValue (cursor : Cursor) : Except Error Cursor := cursor.skipIn []

theorem size_skipIn_lt {cursor behind : Cursor} {opened : List Bracket}
    (taken : cursor.skipIn opened = .ok behind) : behind.size < cursor.size := by
  fun_induction skipIn cursor opened with
  | case1 => simp at taken
  | case2 => simp at taken
  | case3 cursor opened bracket inside started last between =>
    have := size_skipStart_lt started
    have := size_skipSpace_le cursor
    have := size_skipBetween_le between
    simp only [Except.ok.injEq] at taken
    subst taken
    omega
  | case4 cursor opened bracket inside started still last _ between hypothesis =>
    have := size_skipStart_lt started
    have := size_skipSpace_le cursor
    have := size_skipBetween_le between
    have := hypothesis taken
    omega

theorem size_skipValue_lt {cursor behind : Cursor} (taken : cursor.skipValue = .ok behind) :
    behind.size < cursor.size :=
  size_skipIn_lt taken

end Cursor

end AccountPanel.Json
