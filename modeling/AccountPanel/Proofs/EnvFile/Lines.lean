import AccountPanel.EnvFile.Lines

/-!
# Lines of files in two parts

The logical lines of a file are those of its parts, provided that the first part ends with a line
break and that no quotes are open there.
-/

namespace AccountPanel.EnvFile

/-! ## Physical lines -/

/-- Put an octet at the start of the first physical line. A line break is a line of its own. -/
def putOctet (octet : UInt8) (lines : List (List UInt8)) : List (List UInt8) :=
  if octet == 0x0A then [octet] :: lines
  else match lines with
    | [] => [[octet]]
    | line :: others => (octet :: line) :: others

theorem physicalLines_cons (octet : UInt8) (octets : List UInt8) :
    physicalLines (octet :: octets) = putOctet octet (physicalLines octets) := rfl

theorem putOctet_ne_nil (octet : UInt8) (lines : List (List UInt8)) :
    putOctet octet lines ≠ [] := by
  unfold putOctet
  split
  · exact List.cons_ne_nil _ _
  · split
    · exact List.cons_ne_nil _ _
    · exact List.cons_ne_nil _ _

theorem putOctet_append (octet : UInt8) {lines : List (List UInt8)} (filled : lines ≠ [])
    (behind : List (List UInt8)) :
    putOctet octet (lines ++ behind) = putOctet octet lines ++ behind := by
  cases lines with
  | nil => exact absurd rfl filled
  | cons line lines =>
      unfold putOctet
      split
      · rfl
      · rfl

/-- Is every physical line ended by a line break? -/
def isEnded (octets : List UInt8) : Bool := octets.getLast?.all (· == 0x0A)

theorem physicalLines_append {front : List UInt8} (ended : isEnded front = true)
    (behind : List UInt8) :
    physicalLines (front ++ behind) = physicalLines front ++ physicalLines behind := by
  induction front with
  | nil => rfl
  | cons octet front ih =>
      cases front with
      | nil =>
          have lineBreak : (octet == 0x0A) = true := ended
          rw [List.singleton_append, physicalLines_cons, physicalLines_cons]
          unfold putOctet
          rw [if_pos lineBreak, if_pos lineBreak]
          rfl
      | cons next front =>
          have filled : physicalLines (next :: front) ≠ [] := putOctet_ne_nil next _
          rw [List.cons_append, physicalLines_cons, ih ended, putOctet_append octet filled,
            physicalLines_cons octet]

/-! ## Logical lines -/

/-- If no fault shows in a part of the physical lines, nothing is open behind it. -/
theorem logicalLines_append {quoting : Quoting} {pending : List Char}
    (start : quoting = .complete → pending = []) {front : List (Option (List Char))}
    (sound : none ∉ logicalLines quoting pending front) (behind : List (Option (List Char))) :
    logicalLines quoting pending (front ++ behind) =
      logicalLines quoting pending front ++ logicalLines .complete [] behind := by
  induction front generalizing quoting pending with
  | nil =>
      by_cases complete : quoting = .complete
      · rw [complete, start complete]
        rfl
      · rw [logicalLines, if_neg complete] at sound
        exact absurd List.mem_cons_self sound
  | cons line front ih =>
      cases line with
      | none => exact absurd List.mem_cons_self sound
      | some line =>
          have next := @ih .complete [] (fun _ => rfl)
          simp only [List.cons_append, logicalLines] at sound ⊢
          split at sound
          next comment =>
            rw [if_pos comment, if_pos comment, List.cons_append,
              next fun fault => sound (List.mem_cons_of_mem _ fault)]
          next other =>
            rw [if_neg other, if_neg other]
            split at sound
            next before ending =>
              rw [List.cons_append, next fun fault => sound (List.mem_cons_of_mem _ fault)]
            next ending =>
              rw [List.cons_append, next fun fault => sound (List.mem_cons_of_mem _ fault)]
            next unfinished notComplete ending =>
              exact ih (fun complete => absurd complete notComplete) sound

/-- The logical lines of octets that no mark stands before. -/
def unmarkedLines (octets : List UInt8) : List (Option (List Char)) :=
  logicalLines .complete [] ((physicalLines octets).map Text.Utf8.decode?)

theorem unmarkedLines_append {front : List UInt8} (ended : isEnded front = true)
    (sound : none ∉ unmarkedLines front) (behind : List UInt8) :
    unmarkedLines (front ++ behind) = unmarkedLines front ++ unmarkedLines behind := by
  rw [unmarkedLines, physicalLines_append ended, List.map_append]
  exact logicalLines_append (fun _ => rfl) sound _

end AccountPanel.EnvFile
