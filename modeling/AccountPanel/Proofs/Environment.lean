import AccountPanel.Environment

/-!
# Looking up variables

What a variable is after another one was defined, and what variables with octets as texts are.
-/

namespace AccountPanel.Environment

variable (environment : Environment)

/-- A definition gives its text to a variable that has none, and leaves all others alone. -/
theorem get?_define (name text other : String) :
    (environment.define name text).get? other =
      (environment.get? other).or (if name = other then some text else none) := by
  rw [define]
  split
  next set =>
    split
    next same =>
      rcases Option.isSome_iff_exists.mp (same ▸ set) with ⟨kept, found⟩
      rw [found]
      rfl
    · rw [Option.or_none]
  next =>
    rw [get?, List.lookup_append, get?, List.lookup_cons, List.lookup_nil]
    by_cases same : name = other
    · rw [if_pos same, same, beq_self_eq_true]
    · rw [if_neg same, beq_eq_false_iff_ne.mpr (Ne.symm same)]

/-- A variable that is set is not defined again. -/
theorem define_of_isSome {name : String} (set : (environment.get? name).isSome = true)
    (text : String) : environment.define name text = environment := if_pos set

/-- The text that octets stand for, if they are those of a text. -/
def textOf? (octets : List UInt8) : Option String :=
  (Text.Utf8.decode? octets).map String.ofList

theorem get?_ofOctets_cons (other : String) (octets : List UInt8)
    (bindings : List (String × List UInt8)) (name : String) :
    (ofOctets ((other, octets) :: bindings)).get? name =
      (if name = other then textOf? octets else none).or ((ofOctets bindings).get? name) := by
  have entry : (Text.Utf8.decode? octets).map (fun text => (other, String.ofList text)) =
      (textOf? octets).map (other, ·) := by
    rw [textOf?, Option.map_map]
    rfl
  simp only [get?, ofOctets, List.filterMap_cons, entry]
  cases textOf? octets with
  | none => simp
  | some text =>
      simp only [Option.map_some, List.lookup_cons]
      by_cases same : name = other
      · simp [same]
      · simp [same, beq_eq_false_iff_ne.mpr same]

/-- The text of a variable is what its octets stand for. -/
theorem get?_ofOctets {bindings : List (String × List UInt8)}
    (distinct : (bindings.map (·.1)).Nodup) (name : String) :
    (ofOctets bindings).get? name = (bindings.lookup name).bind textOf? := by
  induction bindings with
  | nil => rfl
  | cons binding bindings ih =>
      obtain ⟨other, octets⟩ := binding
      rcases List.nodup_cons.mp distinct with ⟨absent, distinctBehind⟩
      rw [get?_ofOctets_cons, ih distinctBehind, List.lookup_cons]
      by_cases same : name = other
      · have alone : bindings.lookup name = none := by
          rw [List.lookup_eq_none_iff]
          intro binding member
          rw [same, bne_iff_ne]
          exact fun equal => absent (List.mem_map.mpr ⟨binding, member, equal.symm⟩)
        rw [if_pos same, alone, same, beq_self_eq_true]
        exact Option.or_none
      · rw [if_neg same, beq_eq_false_iff_ne.mpr same]
        exact Option.none_or

end AccountPanel.Environment
