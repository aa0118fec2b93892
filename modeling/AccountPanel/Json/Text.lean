import AccountPanel.Json.Error

/-!
# Strings in a JSON text

Reading a string behind its opening quote, and passing over one that nobody asked for. Passing over
is more lenient: it does not look at which code points the escapes stand for.
-/

namespace AccountPanel.Json

/-- The value of a hexadecimal digit of either case. -/
def hexValue? (character : Char) : Option Nat :=
  if character.isDigit then some (character.toNat - '0'.toNat)
  else if 'a' ≤ character ∧ character ≤ 'f' then some (character.toNat - 'a'.toNat + 10)
  else if 'A' ≤ character ∧ character ≤ 'F' then some (character.toNat - 'A'.toNat + 10)
  else none

/-- The value of four hexadecimal digits at the start of a text, and what follows them. -/
def fourDigits? : List Char → Option (Nat × List Char)
  | first :: second :: third :: fourth :: rest => do
    let first ← hexValue? first
    let second ← hexValue? second
    let third ← hexValue? third
    let fourth ← hexValue? fourth
    return (((first * 16 + second) * 16 + third) * 16 + fourth, rest)
  | _ => none

/-- The character that a one-letter escape stands for. -/
def simpleEscape? : Char → Option Char
  | '"' => some '"'
  | '\\' => some '\\'
  | '/' => some '/'
  | 'b' => some '\x08'
  | 'f' => some '\x0c'
  | 'n' => some '\n'
  | 'r' => some '\r'
  | 't' => some '\t'
  | _ => none

/-- Must this character be escaped in a string? -/
def isControl (character : Char) : Bool := character.toNat < 0x20

namespace Cursor

/-- Take the four digits of a code unit. -/
def codeUnit (cursor : Cursor) : Except Error (Nat × Cursor) :=
  match fourDigits? cursor.rest with
  | some (unit, rest) => .ok (unit, ⟨rest, cursor.positionAfter 4⟩)
  | none =>
    if (cursor.rest.take 4).foldl (fun octets character => octets + character.utf8Size) 0 < 4 then
      cursor.failAfter 4 (.endInside .string)
    else cursor.failAfter 4 .escape

/-- Take one character that has to be there. -/
def expectInEscape (cursor : Cursor) (expected : Char) : Except Error Cursor :=
  match cursor.peek? with
  | none => cursor.failHere (.endInside .string)
  | some character =>
    if character = expected then .ok cursor.advance else cursor.failNext .endOfEscape

/-- The character outside the first plane that a surrogate pair stands for. -/
def surrogatePair (high low : Nat) : Char :=
  Char.ofNat (0x10000 + (high - 0xD800) * 0x400 + (low - 0xDC00))

/-- Take the escape of the second half of a surrogate pair. -/
def lowSurrogate (cursor : Cursor) (high : Nat) : Except Error (Char × Cursor) := do
  let behind ← cursor.expectInEscape '\\'
  let behind ← behind.expectInEscape 'u'
  let (low, behind) ← behind.codeUnit
  if 0xDC00 ≤ low ∧ low ≤ 0xDFFF then .ok (surrogatePair high low, behind)
  else behind.failHere .loneSurrogate

/-- Take what stands behind a backslash and a `u`: a code unit, or a pair of surrogates of which
the second has an escape of its own. -/
def codePoint (cursor : Cursor) : Except Error (Char × Cursor) := do
  let (unit, behind) ← cursor.codeUnit
  if 0xDC00 ≤ unit ∧ unit ≤ 0xDFFF then behind.failHere .loneSurrogate
  else if 0xD800 ≤ unit ∧ unit ≤ 0xDBFF then behind.lowSurrogate unit
  else .ok (Char.ofNat unit, behind)

/-- Take what stands behind a backslash. -/
def escape (cursor : Cursor) : Except Error (Char × Cursor) :=
  match cursor.peek? with
  | none => cursor.failHere (.endInside .string)
  | some 'u' => cursor.advance.codePoint
  | some letter =>
    match simpleEscape? letter with
    | some character => .ok (character, cursor.advance)
    | none => cursor.failNext .escape

/-- Pass over what stands behind a backslash. -/
def skipEscape (cursor : Cursor) : Except Error Cursor :=
  match cursor.peek? with
  | none => cursor.failHere (.endInside .string)
  | some 'u' => do return (← cursor.advance.codeUnit).2
  | some letter =>
    if (simpleEscape? letter).isSome then .ok cursor.advance else cursor.failNext .escape

end Cursor

theorem length_of_fourDigits? {text rest : List Char} {unit : Nat}
    (digits : fourDigits? text = some (unit, rest)) : rest.length < text.length := by
  unfold fourDigits? at digits
  split at digits
  · simp only [Option.bind_eq_bind, Option.bind_eq_some_iff, Option.pure_def, Option.some.injEq,
      Prod.mk.injEq] at digits
    obtain ⟨_, _, _, _, _, _, _, _, _, rfl⟩ := digits
    simp only [List.length_cons]
    omega
  · simp at digits

namespace Cursor

theorem size_codeUnit_lt {cursor behind : Cursor} {unit : Nat}
    (taken : cursor.codeUnit = .ok (unit, behind)) : behind.size < cursor.size := by
  unfold codeUnit at taken
  split at taken
  · rename_i digits
    simp only [Except.ok.injEq, Prod.mk.injEq] at taken
    obtain ⟨_, rfl⟩ := taken
    exact length_of_fourDigits? digits
  · split at taken <;> simp at taken

theorem size_expectInEscape_le {cursor behind : Cursor} {expected : Char}
    (taken : cursor.expectInEscape expected = .ok behind) : behind.size ≤ cursor.size := by
  unfold expectInEscape at taken
  split at taken
  · simp at taken
  · split at taken
    · simp only [Except.ok.injEq] at taken
      exact taken ▸ size_advance_le cursor
    · simp at taken

theorem size_lowSurrogate_lt {cursor behind : Cursor} {high : Nat} {character : Char}
    (taken : cursor.lowSurrogate high = .ok (character, behind)) : behind.size < cursor.size := by
  simp only [lowSurrogate, bind_eq_ok_iff] at taken
  obtain ⟨first, slash, second, letter, ⟨low, third⟩, unit, taken⟩ := taken
  have shorter := size_codeUnit_lt unit
  have firstShorter := size_expectInEscape_le slash
  have secondShorter := size_expectInEscape_le letter
  split at taken
  · simp only [Except.ok.injEq, Prod.mk.injEq] at taken
    rw [← taken.2]
    omega
  · simp at taken

theorem size_codePoint_lt {cursor behind : Cursor} {character : Char}
    (taken : cursor.codePoint = .ok (character, behind)) : behind.size < cursor.size := by
  simp only [codePoint, bind_eq_ok_iff] at taken
  obtain ⟨⟨value, first⟩, unit, taken⟩ := taken
  have shorter := size_codeUnit_lt unit
  split at taken
  · simp at taken
  · split at taken
    · exact Nat.lt_trans (size_lowSurrogate_lt taken) shorter
    · simp only [Except.ok.injEq, Prod.mk.injEq] at taken
      exact taken.2 ▸ shorter

theorem size_escape_lt {cursor behind : Cursor} {character : Char}
    (taken : cursor.escape = .ok (character, behind)) : behind.size < cursor.size := by
  unfold escape at taken
  split at taken
  · simp at taken
  · rename_i next
    exact Nat.lt_trans (size_codePoint_lt taken) (size_advance_lt next)
  · rename_i next
    split at taken
    · simp only [Except.ok.injEq, Prod.mk.injEq] at taken
      exact taken.2 ▸ size_advance_lt next
    · simp at taken

theorem size_skipEscape_lt {cursor behind : Cursor}
    (taken : cursor.skipEscape = .ok behind) : behind.size < cursor.size := by
  unfold skipEscape at taken
  split at taken
  · simp at taken
  · rename_i next
    simp only [bind_eq_ok_iff, pure, Except.pure, Except.ok.injEq] at taken
    obtain ⟨unit, digits, rfl⟩ := taken
    exact Nat.lt_trans (size_codeUnit_lt digits) (size_advance_lt next)
  · rename_i next
    split at taken
    · simp only [Except.ok.injEq] at taken
      exact taken ▸ size_advance_lt next
    · simp at taken

/-- Take the rest of a string behind the characters that are done, the last one first. -/
def stringOnto (cursor : Cursor) (done : List Char) : Except Error (String × Cursor) :=
  match _next : cursor.peek? with
  | none => cursor.failHere (.endInside .string)
  | some '"' => .ok (String.ofList done.reverse, cursor.advance)
  | some '\\' =>
    match _taken : cursor.advance.escape with
    | .error error => .error error
    | .ok (character, behind) => behind.stringOnto (character :: done)
  | some character =>
    if isControl character then cursor.failNext .controlCharacter
    else cursor.advance.stringOnto (character :: done)
termination_by cursor.size
decreasing_by
  · exact Nat.lt_trans (size_escape_lt _taken) (size_advance_lt _next)
  · exact size_advance_lt _next

/-- Take a string behind its opening quote. -/
def string (cursor : Cursor) : Except Error (String × Cursor) := cursor.stringOnto []

/-- Pass over a string behind its opening quote. -/
def skipString (cursor : Cursor) : Except Error Cursor :=
  match _next : cursor.peek? with
  | none => cursor.failHere (.endInside .string)
  | some '"' => .ok cursor.advance
  | some '\\' =>
    match _taken : cursor.advance.skipEscape with
    | .error error => .error error
    | .ok behind => behind.skipString
  | some character =>
    if isControl character then cursor.failHere .controlCharacter
    else cursor.advance.skipString
termination_by cursor.size
decreasing_by
  · exact Nat.lt_trans (size_skipEscape_lt _taken) (size_advance_lt _next)
  · exact size_advance_lt _next

theorem size_stringOnto_lt {cursor behind : Cursor} {done : List Char} {text : String}
    (taken : cursor.stringOnto done = .ok (text, behind)) : behind.size < cursor.size := by
  fun_induction stringOnto cursor done with
  | case1 => simp at taken
  | case2 _ _ next =>
    simp only [Except.ok.injEq, Prod.mk.injEq] at taken
    exact taken.2 ▸ size_advance_lt next
  | case3 => simp at taken
  | case4 _ _ next _ _ escaped hypothesis =>
    have := size_escape_lt escaped
    have := size_advance_lt next
    have := hypothesis taken
    omega
  | case5 => simp at taken
  | case6 _ _ _ _ _ next _ hypothesis =>
    exact Nat.lt_trans (hypothesis taken) (size_advance_lt next)

theorem size_string_lt {cursor behind : Cursor} {text : String}
    (taken : cursor.string = .ok (text, behind)) : behind.size < cursor.size :=
  size_stringOnto_lt taken

theorem size_skipString_lt {cursor behind : Cursor}
    (taken : cursor.skipString = .ok behind) : behind.size < cursor.size := by
  fun_induction skipString cursor with
  | case1 => simp at taken
  | case2 _ next =>
    simp only [Except.ok.injEq] at taken
    exact taken ▸ size_advance_lt next
  | case3 => simp at taken
  | case4 _ next _ escaped hypothesis =>
    have := size_skipEscape_lt escaped
    have := size_advance_lt next
    have := hypothesis taken
    omega
  | case5 => simp at taken
  | case6 _ _ _ _ next _ hypothesis =>
    exact Nat.lt_trans (hypothesis taken) (size_advance_lt next)

end Cursor

end AccountPanel.Json
