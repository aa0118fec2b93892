import AccountPanel.Avatar
import AccountPanel.Proofs.Percent
import AccountPanel.Proofs.Text.Trailing

/-!
# Addresses of avatar pictures

The address of a picture is the base without the slashes at its end, one slash, and the encoded
style and seed. No encoding holds a slash, so the slash between the two parts is found again and the
address tells both. A blank style leaves the seed alone: its part would be empty, and the slash that
it would stand behind goes with it.
-/

namespace AccountPanel

open Text

namespace Percent

theorem encode_empty : encode "" = "" := by decide

/-- The encoding of a text that is not empty starts with something else than a slash. -/
theorem exists_encode_eq_cons {text : String} (filled : text ≠ "") :
    ∃ first rest, (encode text).toList = first :: rest ∧ first ≠ '/' := by
  cases characters : (encode text).toList with
  | nil =>
      have same : encode text = encode "" := by
        rw [encode_empty]
        exact String.toList_eq_nil_iff.mp characters
      exact absurd (encode_injective same) filled
  | cons first rest =>
      refine ⟨first, rest, rfl, ?_⟩
      rintro rfl
      exact slash_notMem_encode text (characters ▸ List.mem_cons_self)

/-- What starts with the encoding of some text does not start with a slash. -/
theorem dropWhile_slash_encode_append {text : String} (filled : text ≠ "") (behind : List Char) :
    ((encode text).toList ++ behind).dropWhile (· == '/') = (encode text).toList ++ behind := by
  rcases exists_encode_eq_cons filled with ⟨first, rest, characters, other⟩
  rw [characters, List.cons_append]
  exact List.dropWhile_cons_of_neg (Bool.eq_false_iff.mp (beq_eq_false_iff_ne.mpr other))

end Percent

namespace AvatarService

variable (service : AvatarService) (seed : String)

/-- The name of a picture: the seed with its ending. -/
def pictureName : String := seed ++ ".svg"

theorem pictureName_ne_empty : pictureName seed ≠ "" := by
  intro empty
  have characters := congrArg String.toList empty
  rw [pictureName, String.toList_append] at characters
  exact absurd (List.append_eq_nil_iff.mp characters).2 (by decide)

/-- What stands behind the base in the address of a picture. -/
def relativePath : String :=
  if isBlankText service.style then Percent.encode (pictureName seed)
  else Percent.encode (trim service.style) ++ "/" ++ Percent.encode (pictureName seed)

/-- The characters of a path. The ending of a picture's name is written as it is. -/
theorem toList_path :
    (service.path seed).toList =
      '/' :: ((Percent.encode (trim service.style)).toList ++
        '/' :: (Percent.encode (pictureName seed)).toList) := by
  have ending : Percent.encode ".svg" = ".svg" := by decide
  have slash : "/".toList = ['/'] := rfl
  simp only [path, pictureName, Percent.encode_append, ending, String.toList_append, slash,
    List.append_assoc, List.cons_append, List.nil_append]

/-- The slashes at the start of the path are gone, the one behind a blank style too. -/
theorem dropLeadingSlashes_path :
    dropLeadingSlashes (service.path seed) = service.relativePath seed := by
  have slash : "/".toList = ['/'] := rfl
  have skip : ∀ items : List Char, ('/' :: items).dropWhile (· == '/') =
      items.dropWhile (· == '/') := fun items => List.dropWhile_cons_of_pos (beq_self_eq_true '/')
  rw [← String.toList_inj, toList_dropLeadingSlashes, toList_path, skip, relativePath]
  split
  next blank =>
    have name := Percent.dropWhile_slash_encode_append (pictureName_ne_empty seed) []
    rw [List.append_nil] at name
    rw [(trim_eq_empty_iff service.style).mpr blank, Percent.encode_empty, String.toList_empty,
      List.nil_append, skip, name]
  next visible =>
    have filled : trim service.style ≠ "" := fun empty =>
      visible ((trim_eq_empty_iff service.style).mp empty)
    rw [Percent.dropWhile_slash_encode_append filled, String.toList_append, String.toList_append,
      slash, List.append_assoc, List.singleton_append]

/-- The parts of the path between its slashes: the encoded style, unless it is blank, and the
encoded name of the picture. -/
theorem partsBetween_relativePath :
    partsBetween '/' (service.relativePath seed).toList =
      if isBlankText service.style then [(Percent.encode (pictureName seed)).toList]
      else [(Percent.encode (trim service.style)).toList,
        (Percent.encode (pictureName seed)).toList] := by
  have slash : "/".toList = ['/'] := rfl
  rw [relativePath]
  split
  · exact partsBetween_of_notMem (Percent.slash_notMem_encode _)
  · rw [String.toList_append, String.toList_append, slash, List.append_assoc,
      List.singleton_append,
      partsBetween_append_cons_of_notMem (Percent.slash_notMem_encode _),
      partsBetween_of_notMem (Percent.slash_notMem_encode _)]

/-- A path starts with the encoding of some text, that of the style or that of the name. -/
theorem exists_relativePath_eq :
    ∃ text rest, text ≠ "" ∧ service.relativePath seed = Percent.encode text ++ rest := by
  rw [relativePath]
  split
  · exact ⟨pictureName seed, "", pictureName_ne_empty seed, String.append_empty.symm⟩
  next visible =>
    refine ⟨trim service.style, "/" ++ Percent.encode (pictureName seed), ?_, String.append_assoc⟩
    exact fun empty => visible ((trim_eq_empty_iff service.style).mp empty)

theorem relativePath_ne_empty : service.relativePath seed ≠ "" := by
  rcases service.exists_relativePath_eq seed with ⟨text, rest, filled, path⟩
  rcases Percent.exists_encode_eq_cons filled with ⟨first, others, written, -⟩
  intro empty
  have characters := congrArg String.toList (path.symm.trans empty)
  rw [String.toList_append, written] at characters
  cases characters

/-- The address of a picture. -/
theorem url_eq :
    service.url seed =
      dropTrailingSlashes service.base ++ "/" ++ service.relativePath seed := by
  have filled : (service.relativePath seed).isEmpty = false :=
    Bool.eq_false_iff.mpr fun empty =>
      service.relativePath_ne_empty seed (String.isEmpty_iff.mp empty)
  simp only [url, joinUrl, dropLeadingSlashes_path, filled, Bool.false_eq_true, if_false,
    dropTrailingSlashes_dropTrailingSlashes]

/-- The characters behind the base. -/
theorem all_relativePath :
    ∀ character ∈ (service.relativePath seed).toList,
      character.isAlphanum = true ∨ character ∈ ['-', '_', '.', '~', '%', '/'] := by
  have encoded : ∀ text, ∀ character ∈ (Percent.encode text).toList,
      character.isAlphanum = true ∨ character ∈ ['-', '_', '.', '~', '%', '/'] := by
    intro text character member
    have written := List.all_eq_true.mp (Percent.all_isWritten_encode text) character member
    rw [Percent.isWritten, Bool.or_eq_true, List.contains_iff_mem] at written
    exact written.imp_right fun mark => List.mem_append_left ['/'] mark
  intro character member
  rw [relativePath] at member
  split at member
  · exact encoded _ character member
  · rw [String.toList_append, String.toList_append, List.mem_append, List.mem_append] at member
    rcases member with (style | slash) | name
    · exact encoded _ character style
    · exact .inr (List.mem_append_right ['-', '_', '.', '~', '%'] slash)
    · exact encoded _ character name

theorem pictureName_injective : Function.Injective pictureName := by
  intro seed other same
  have characters := congrArg String.toList same
  rw [pictureName, pictureName, String.toList_append, String.toList_append] at characters
  exact String.toList_inj.mp (List.append_cancel_right characters)

/-- A path tells the style, without the blanks at its ends, and the seed. -/
theorem relativePath_eq_iff (other : AvatarService) (otherSeed : String) :
    other.relativePath otherSeed = service.relativePath seed ↔
      trim other.style = trim service.style ∧ otherSeed = seed := by
  have told : ∀ {text other : String},
      (Percent.encode text).toList = (Percent.encode other).toList → text = other :=
    fun same => Percent.encode_injective (String.toList_inj.mp same)
  constructor
  · intro same
    have parts := other.partsBetween_relativePath otherSeed
    rw [same, partsBetween_relativePath] at parts
    split at parts
    next blank =>
      split at parts
      next otherBlank =>
        refine ⟨?_, (pictureName_injective (told (List.cons.inj parts).1)).symm⟩
        rw [(trim_eq_empty_iff _).mpr blank, (trim_eq_empty_iff _).mpr otherBlank]
      next => cases (List.cons.inj parts).2
    next =>
      split at parts
      next => cases (List.cons.inj parts).2
      next =>
        rcases List.cons.inj parts with ⟨style, names⟩
        exact ⟨(told style).symm, (pictureName_injective (told (List.cons.inj names).1)).symm⟩
  · rintro ⟨style, rfl⟩
    have blank : isBlankText other.style = isBlankText service.style := by
      rw [Bool.eq_iff_iff, ← trim_eq_empty_iff, ← trim_eq_empty_iff, style]
    rw [relativePath, relativePath, blank, style]

/-- The address of a picture stands behind the base without the slashes at its end, however many
they are. It holds few characters, tells the style and the seed in two parts, unless the style is
blank, and two addresses behind one base are the same only for the same style, without the blanks at
its ends, and the same seed. -/
theorem url_tells_style_and_seed (base style seed : String) :
    (∃ count, base = dropTrailingSlashes base ++ slashes count) ∧
      (dropTrailingSlashes base).toList.getLast? ≠ some '/' ∧
      (∃ rest, url ⟨base, style⟩ seed = dropTrailingSlashes base ++ "/" ++ rest ∧
        (∀ character ∈ rest.toList,
          character.isAlphanum = true ∨ character ∈ ['-', '_', '.', '~', '%', '/']) ∧
        (isBlankText style = false →
          (partsBetween '/' rest.toList).map Percent.text? =
            [some (trim style), some (seed ++ ".svg")])) ∧
      (∀ count, url ⟨base ++ slashes count, style⟩ seed = url ⟨base, style⟩ seed) ∧
      ∀ otherStyle otherSeed, url ⟨base, otherStyle⟩ otherSeed = url ⟨base, style⟩ seed ↔
        trim otherStyle = trim style ∧ otherSeed = seed := by
  let service : AvatarService := ⟨base, style⟩
  refine ⟨exists_eq_append_slashes base, getLast?_dropTrailingSlashes_ne base,
    ⟨service.relativePath seed, service.url_eq seed, service.all_relativePath seed, ?_⟩, ?_, ?_⟩
  · intro visible
    rw [partsBetween_relativePath, if_neg (Bool.eq_false_iff.mp visible), List.map_cons,
      List.map_cons, List.map_nil, Percent.text?_encode, Percent.text?_encode]
    rfl
  · intro count
    change _ = service.url seed
    rw [url_eq, url_eq, dropTrailingSlashes_append_slashes]
    rfl
  · intro otherStyle otherSeed
    rw [← service.relativePath_eq_iff seed ⟨base, otherStyle⟩ otherSeed]
    change _ = service.url seed ↔ _
    rw [url_eq, url_eq]
    constructor
    · intro same
      have characters := congrArg String.toList same
      simp only [String.toList_append] at characters
      exact String.toList_inj.mp (List.append_cancel_left characters)
    · intro same
      rw [same]

/-- A style between blanks, and a seed that looks like a path. -/
theorem url_tells_style_and_seed_of_path :
    let style := " pixel/art\t"
    let seed := "é/../ñ%2F"
    isBlankText style = false ∧
      ∃ rest, url ⟨"https://a.example/api//", style⟩ seed = "https://a.example/api/" ++ rest ∧
        (partsBetween '/' rest.toList).map Percent.text? =
          [some "pixel/art", some "é/../ñ%2F.svg"] ∧
        url ⟨"https://a.example/api//", "pixel/art"⟩ seed =
          url ⟨"https://a.example/api//", style⟩ seed := by
  intro style seed
  have visible : isBlankText style = false := by decide
  have trimmed : trim style = "pixel/art" := by decide
  have name : seed ++ ".svg" = "é/../ñ%2F.svg" := by decide
  have bare : dropTrailingSlashes "https://a.example/api//" ++ "/" = "https://a.example/api/" := by
    decide
  have again : trim "pixel/art" = trim style := by decide
  rcases url_tells_style_and_seed "https://a.example/api//" style seed with
    ⟨-, -, ⟨rest, address, -, told⟩, -, same⟩
  have parts := told visible
  rw [trimmed, name] at parts
  rw [bare] at address
  exact ⟨visible, rest, address, parts, (same "pixel/art" seed).mpr ⟨again, rfl⟩⟩

end AvatarService

end AccountPanel
