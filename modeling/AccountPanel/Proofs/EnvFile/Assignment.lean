import AccountPanel.EnvFile.Assignment
import AccountPanel.Proofs.EnvFile.Lines
import AccountPanel.Proofs.EnvFile.Value
import AccountPanel.Proofs.Environment
import Mathlib.Data.List.TakeWhile

/-!
# Carrying out an environment file

What a logical line does is the same in every environment, apart from the text that it gives to a
variable. So the lines that are carried out are those before the first fault, wherever the file is
loaded. A variable ends with the text it had at first, or else with that of the first assignment to
it, read in the environment that the lines before it have left. Hence a second load finds every
variable set.
-/

namespace AccountPanel.EnvFile

/-- What a logical line does, apart from the text that it assigns. -/
inductive Kind where
  | blank
  | assigns (name : String)
  | malformed
  deriving Repr, DecidableEq

def Line.kind : Line → Kind
  | .blank => .blank
  | .assignment name _ => .assigns name
  | .malformed => .malformed

/-- A line does the same in every environment. -/
theorem kind_readLine (one other : Environment) (line : List Char) :
    (readLine one line).kind = (readLine other line).kind := by
  simp only [readLine]
  split
  · rfl
  · split
    · rfl
    next name rest target =>
      split
      · rfl
      · have told := isSome_value? one other (skipBlanks rest)
        generalize value? one (skipBlanks rest) = left at told ⊢
        generalize value? other (skipBlanks rest) = right at told ⊢
        cases left with
        | none =>
            cases right with
            | none => rfl
            | some text => cases told
        | some value =>
            cases right with
            | none => cases told
            | some text => rfl

/-- What a logical line of a file does. A fault of the file is a line of its own. -/
def kindOf : Option (List Char) → Kind
  | none => .malformed
  | some line => (readLine {} line).kind

/-- Is there no fault in a logical line? -/
def isWellFormed (line : Option (List Char)) : Bool := kindOf line != .malformed

/-- Does a logical line assign a text to this variable? -/
def assigns (name : String) (line : Option (List Char)) : Bool := kindOf line == .assigns name

section

variable (environment : Environment)

/-- The text that a logical line assigns when it is read in an environment. -/
def assigned? : Option (List Char) → Option String
  | none => none
  | some line =>
    match readLine environment line with
    | .assignment _ value => some value
    | _ => none

/-- The text of the first assignment to a variable in a run of logical lines, read in the
environment that the lines before it have left. -/
def firstAssigned? (run : List (Option (List Char))) (name : String) : Option String := do
  let line ← run.find? (assigns name)
  assigned? (loadLines environment (run.takeWhile (! assigns name ·))) line

/-! ## One line -/

/-- The three things that a logical line can do. -/
theorem loadLines_cases (line : Option (List Char)) :
    (kindOf line = .malformed ∧ ∀ behind, loadLines environment (line :: behind) = environment) ∨
      (kindOf line = .blank ∧
        ∀ behind, loadLines environment (line :: behind) = loadLines environment behind) ∨
      ∃ name value, kindOf line = .assigns name ∧ assigned? environment line = some value ∧
        ∀ behind, loadLines environment (line :: behind) =
          loadLines (environment.define name value) behind := by
  cases line with
  | none => exact .inl ⟨rfl, fun _ => rfl⟩
  | some line =>
      have kind : kindOf (some line) = (readLine environment line).kind :=
        kind_readLine {} environment line
      simp only [loadLines, kind, assigned?]
      cases readLine environment line with
      | blank => exact .inr (.inl ⟨rfl, fun _ => rfl⟩)
      | assignment name value => exact .inr (.inr ⟨name, value, rfl, rfl, fun _ => rfl⟩)
      | malformed => exact .inl ⟨rfl, fun _ => rfl⟩

theorem exists_assigned? {name : String} {line : Option (List Char)}
    (assigning : assigns name line = true) : ∃ value, assigned? environment line = some value := by
  have kind : kindOf line = .assigns name := eq_of_beq assigning
  rcases loadLines_cases environment line with
    ⟨malformed, -⟩ | ⟨blank, -⟩ | ⟨other, value, -, assigned, -⟩
  · rw [kind] at malformed
    cases malformed
  · rw [kind] at blank
    cases blank
  · exact ⟨value, assigned⟩

/-! ## Runs of lines -/

/-- The lines behind the first fault are not carried out. -/
theorem loadLines_takeWhile (lines : List (Option (List Char))) :
    loadLines environment (lines.takeWhile isWellFormed) = loadLines environment lines := by
  induction lines generalizing environment with
  | nil => rfl
  | cons line lines ih =>
      rw [List.takeWhile_cons]
      rcases loadLines_cases environment line with
        ⟨kind, effect⟩ | ⟨kind, effect⟩ | ⟨name, value, kind, -, effect⟩
      · rw [isWellFormed, kind, effect]
        rfl
      · rw [isWellFormed, kind, effect]
        exact (effect _).trans (ih environment)
      · rw [isWellFormed, kind, effect]
        exact (effect _).trans (ih (environment.define name value))

section Run

variable {run : List (Option (List Char))}

/-- Behind lines without a fault, a variable has the text it had before, or else that of the first
assignment to it. -/
theorem get?_loadLines (whole : ∀ line ∈ run, isWellFormed line = true) (name : String) :
    (loadLines environment run).get? name =
      (environment.get? name).or (firstAssigned? environment run name) := by
  induction run generalizing environment with
  | nil => exact Option.or_none.symm
  | cons line run ih =>
      rcases List.forall_mem_cons.mp whole with ⟨wellFormed, rest⟩
      rcases loadLines_cases environment line with
        ⟨kind, -⟩ | ⟨kind, effect⟩ | ⟨other, value, kind, assigned, effect⟩
      · rw [isWellFormed, kind] at wellFormed
        cases wellFormed
      · have passes : assigns name line = false := by rw [assigns, kind]; rfl
        rw [effect, ih environment rest, firstAssigned?, firstAssigned?,
          List.find?_cons_of_neg (by simp [passes]), List.takeWhile_cons_of_pos (by simp [passes])]
        simp only [effect]
      · rw [effect, ih _ rest, Environment.get?_define]
        by_cases same : other = name
        · -- The line is the first that assigns the variable.
          have assigning : assigns name line = true := by simp [assigns, kind, same]
          rw [if_pos same, firstAssigned?, firstAssigned?,
            List.find?_cons_of_pos assigning, List.takeWhile_cons_of_neg (by simp [assigning])]
          simp [loadLines, assigned]
        · have passes : assigns name line = false := by simp [assigns, kind, same]
          rw [if_neg same, Option.or_none, firstAssigned?, firstAssigned?,
            List.find?_cons_of_neg (by simp [passes]),
            List.takeWhile_cons_of_pos (by simp [passes])]
          simp only [effect]

theorem isSome_firstAssigned? {name : String} {line : Option (List Char)} (member : line ∈ run)
    (assigning : assigns name line = true) :
    (firstAssigned? environment run name).isSome = true := by
  rw [firstAssigned?]
  cases found : run.find? (assigns name) with
  | none => exact absurd assigning (List.find?_eq_none.mp found line member)
  | some first =>
      rcases exists_assigned? (loadLines environment (run.takeWhile (! assigns name ·)))
        (List.find?_some found) with ⟨value, assigned⟩
      exact Option.isSome_of_eq_some assigned

/-- Lines that assign set variables only change nothing. -/
theorem loadLines_of_isSome
    (set : ∀ line ∈ run, ∀ name, assigns name line = true → (environment.get? name).isSome = true) :
    loadLines environment run = environment := by
  induction run with
  | nil => rfl
  | cons line run ih =>
      rcases List.forall_mem_cons.mp set with ⟨here, rest⟩
      rcases loadLines_cases environment line with
        ⟨-, effect⟩ | ⟨-, effect⟩ | ⟨name, value, kind, -, effect⟩
      · exact effect run
      · rw [effect, ih rest]
      · have assigning : assigns name line = true := by simp [assigns, kind]
        rw [effect, Environment.define_of_isSome environment (here name assigning), ih rest]

/-- Lines without a fault that have been carried out once change nothing. -/
theorem loadLines_loadLines (whole : ∀ line ∈ run, isWellFormed line = true) :
    loadLines (loadLines environment run) run = loadLines environment run := by
  apply loadLines_of_isSome
  intro line member name assigning
  rw [get?_loadLines environment whole, Option.isSome_or,
    isSome_firstAssigned? environment member assigning, Bool.or_true]

end Run

/-! ## Files -/

/-- The lines of a file that are carried out: those before its first fault. -/
def carriedOut (octets : List UInt8) : List (Option (List Char)) :=
  (lines octets).takeWhile isWellFormed

theorem isWellFormed_of_mem_carriedOut {octets : List UInt8} :
    ∀ line ∈ carriedOut octets, isWellFormed line = true :=
  fun _ member => List.mem_takeWhile_imp member

theorem load_eq (octets : List UInt8) :
    load environment octets = loadLines environment (carriedOut octets) :=
  (loadLines_takeWhile environment (lines octets)).symm

end

/-- Octets that hold complete lines without a fault. -/
structure IsWhole (octets : List UInt8) : Prop where
  ended : isEnded octets = true
  wellFormed : (unmarkedLines octets).all isWellFormed = true

/-- Is there a fault in the first logical line? -/
def startsWithFault (octets : List UInt8) : Bool :=
  (unmarkedLines octets).head?.any (! isWellFormed ·)

/-- A file is carried out up to a fault that comes behind complete lines, and not beyond. -/
theorem carriedOut_of_fault {octets front behind : List UInt8}
    (split : dropByteOrderMark octets = front ++ behind) (whole : IsWhole front)
    (fault : startsWithFault behind = true) : carriedOut octets = unmarkedLines front := by
  have wellFormed := List.all_eq_true.mp whole.wellFormed
  have sound : none ∉ unmarkedLines front := by
    intro member
    cases wellFormed none member
  have parts : lines octets = unmarkedLines front ++ unmarkedLines behind := by
    rw [lines, split]
    exact unmarkedLines_append whole.ended sound behind
  rw [carriedOut, parts, List.takeWhile_append_of_pos wellFormed]
  rw [startsWithFault] at fault
  cases first : unmarkedLines behind with
  | nil => exact List.append_nil _
  | cons line rest =>
      rw [first, List.head?_cons, Option.any_some, Bool.not_eq_true'] at fault
      rw [List.takeWhile_cons_of_neg (Bool.eq_false_iff.mp fault), List.append_nil]

end AccountPanel.EnvFile
