/-!
# Similar words

The Jaro similarity of two words: how many characters they share at about the same places, and how
many of these are out of order. Words that are similar enough are suggested to the user.
-/

namespace AccountPanel.CommandLine

/-- Characters with the places they have in a word. -/
abbrev Places := List (Nat × Char)

/-- Pair the characters of one word, in order, with equal ones of the other whose places are at
most `range` apart, each with the first one that is still free. The pairs of places are returned
with the last one first. -/
def matchCharacters (range : Nat) (free : Places) (pairs : List ((Nat × Char) × (Nat × Char))) :
    Places → List ((Nat × Char) × (Nat × Char))
  | [] => pairs
  | (place, character) :: rest =>
    let fits := fun (other : Nat × Char) =>
      place ≤ other.1 + range && other.1 ≤ place + range && other.2 == character
    match free.find? fits with
    | some partner =>
      matchCharacters range (free.erase partner) (((place, character), partner) :: pairs) rest
    | none => matchCharacters range free pairs rest

/-- A word with the places of its characters. -/
def places (word : String) : Places :=
  (List.range word.length).zip word.toList

/-- The Jaro similarity of two words, between zero and one. -/
def similarity (word other : String) : Float :=
  if word.isEmpty && other.isEmpty then 1
  else
    let range := max word.length other.length / 2 - 1
    let pairs := (matchCharacters range (places other) [] (places word)).reverse
    if pairs.isEmpty then 0
    else
      let inOrder := (pairs.map (·.2)).mergeSort fun left right => left.1 ≤ right.1
      let moved := ((pairs.map (·.1.2)).zip (inOrder.map (·.2))).countP fun (left, right) =>
        left != right
      let count := pairs.length.toFloat
      let kept := (pairs.length - moved / 2).toFloat
      (count / word.length.toFloat + count / other.length.toFloat + kept / count) / 3

/-- The candidates that are similar to a word, the most similar one last. -/
def similarWords (word : String) (candidates : List String) : List String :=
  let scored := candidates.map fun candidate => (similarity word candidate, candidate)
  let similar := scored.filter fun (score, _) => score > 0.7
  (similar.mergeSort fun left right => left.1 ≤ right.1).map (·.2)

end AccountPanel.CommandLine
