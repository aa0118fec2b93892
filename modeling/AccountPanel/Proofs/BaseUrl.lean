import AccountPanel.Proofs.Avatar
import AccountPanel.Settings

/-!
# Clean base addresses

Cleaning takes the blanks off both ends of a base address and then the slashes off its end. A blank
that stands right before those slashes comes to the end that way and stays there. Every other
address comes out clean, and cleaning it again does not change it.
-/

namespace AccountPanel

open Text

/-- A base address is clean if it holds something, has no blank at its ends and no slash at its
end. -/
structure IsCleanBase (url : String) : Prop where
  filled : url ≠ ""
  tidy : isTidy url = true
  bare : url.toList.getLast? ≠ some '/'

/-- A blank stands right before the slashes at the end of an address, once the blanks at its ends
are gone. -/
def BlankBeforeSlashes (raw : String) : Prop :=
  ∃ front blank behind, (trim raw).toList = front ++ blank :: behind ∧ isBlank blank = true ∧
    ∀ character ∈ behind, character = '/'

variable {raw fallback : String}

/-- What is left of an address without the blanks at its ends and then the slashes at its end. -/
def bareBase (raw : String) : String := dropTrailingSlashes (trim raw)

theorem cleanBaseUrl_eq (raw fallback : String) :
    cleanBaseUrl raw fallback = if (bareBase raw).isEmpty then fallback else bareBase raw := rfl

theorem cleanBaseUrl_cases (raw fallback : String) :
    (bareBase raw = "" ∧ cleanBaseUrl raw fallback = fallback) ∨
      (bareBase raw ≠ "" ∧ cleanBaseUrl raw fallback = bareBase raw) := by
  rw [cleanBaseUrl_eq]
  split
  next empty => exact .inl ⟨String.isEmpty_iff.mp empty, rfl⟩
  next filled => exact .inr ⟨fun empty => filled (String.isEmpty_iff.mpr empty), rfl⟩

theorem head?_bareBase_all (raw : String) :
    (bareBase raw).toList.head?.all (! isBlank ·) = true := by
  rw [bareBase, toList_dropTrailingSlashes]
  exact head?_dropTrailing_all (isTidy_iff.mp (isTidy_trim raw)).1

/-- A blank before the slashes is what is left at the end. -/
theorem blankBeforeSlashes_iff :
    BlankBeforeSlashes raw ↔
      ∃ blank, (bareBase raw).toList.getLast? = some blank ∧ isBlank blank = true := by
  rw [bareBase, toList_dropTrailingSlashes]
  constructor
  · rintro ⟨front, blank, behind, split, space, slashes⟩
    have all : ∀ character ∈ behind, (character == '/') = true := fun character member =>
      beq_iff_eq.mpr (slashes character member)
    have other : blank ≠ '/' := by
      rintro rfl
      exact absurd space (by decide)
    have last : (front ++ [blank]).getLast?.all (! · == '/') = true := by
      rw [List.getLast?_concat]
      simpa using other
    refine ⟨blank, ?_, space⟩
    rw [split, List.append_cons, dropTrailing_append_of_forall all, dropTrailing_of_getLast? last,
      List.getLast?_concat]
  · rintro ⟨blank, last, space⟩
    rcases exists_dropTrailing_split (· == '/') (trim raw).toList with ⟨behind, split, slashes⟩
    rcases List.getLast?_eq_some_iff.mp last with ⟨front, shown⟩
    refine ⟨front, blank, behind, ?_, space, fun character member =>
      beq_iff_eq.mp (slashes character member)⟩
    rw [shown, List.append_assoc] at split
    exact split

/-- What is left does not end with a blank exactly if none was before the slashes. -/
theorem not_blankBeforeSlashes_iff :
    ¬ BlankBeforeSlashes raw ↔ (bareBase raw).toList.getLast?.all (! isBlank ·) = true := by
  rw [blankBeforeSlashes_iff]
  cases (bareBase raw).toList.getLast? with
  | none => simp
  | some character => simp

/-- Nothing is cleaned off a text only if it is tidy. -/
theorem isTidy_of_bareBase_eq (same : bareBase raw = raw) : isTidy raw = true := by
  rcases exists_dropAround_split isBlank raw.toList with ⟨front, behind, split, -⟩
  have starts := (dropTrailing_isPrefix (· == '/') (trim raw).toList).length_le
  rw [← toList_dropTrailingSlashes, ← bareBase, same, toList_trim] at starts
  have lengths := congrArg List.length split
  rw [List.length_append, List.length_append] at lengths
  have noFront : front = [] := List.eq_nil_of_length_eq_zero (by omega)
  have noBehind : behind = [] := List.eq_nil_of_length_eq_zero (by omega)
  rw [noFront, noBehind, List.nil_append, List.append_nil] at split
  rw [isTidy, split]
  exact isBareAround_dropAround isBlank raw.toList

/-! ## What cleaning gives -/

section Clean

variable (clean : IsCleanBase fallback)
include clean

theorem cleanBaseUrl_ne_empty : cleanBaseUrl raw fallback ≠ "" := by
  rcases cleanBaseUrl_cases raw fallback with ⟨-, cleaned⟩ | ⟨filled, cleaned⟩
  · rw [cleaned]
    exact clean.filled
  · rw [cleaned]
    exact filled

theorem head?_cleanBaseUrl_all :
    (cleanBaseUrl raw fallback).toList.head?.all (! isBlank ·) = true := by
  rcases cleanBaseUrl_cases raw fallback with ⟨-, cleaned⟩ | ⟨-, cleaned⟩
  · rw [cleaned]
    exact (isTidy_iff.mp clean.tidy).1
  · rw [cleaned]
    exact head?_bareBase_all raw

theorem getLast?_cleanBaseUrl_ne : (cleanBaseUrl raw fallback).toList.getLast? ≠ some '/' := by
  rcases cleanBaseUrl_cases raw fallback with ⟨-, cleaned⟩ | ⟨-, cleaned⟩
  · rw [cleaned]
    exact clean.bare
  · rw [cleaned]
    exact getLast?_dropTrailingSlashes_ne (trim raw)

/-- A cleaned address ends with a blank exactly if it had one before the slashes at its end. -/
theorem getLast?_cleanBaseUrl_all_iff :
    (cleanBaseUrl raw fallback).toList.getLast?.all (! isBlank ·) = true ↔
      ¬ BlankBeforeSlashes raw := by
  rw [not_blankBeforeSlashes_iff]
  rcases cleanBaseUrl_cases raw fallback with ⟨empty, cleaned⟩ | ⟨-, cleaned⟩
  · rw [cleaned, empty]
    exact iff_of_true (isTidy_iff.mp clean.tidy).2 rfl
  · rw [cleaned]

theorem isCleanBase_cleanBaseUrl_iff :
    IsCleanBase (cleanBaseUrl raw fallback) ↔ ¬ BlankBeforeSlashes raw := by
  rw [← getLast?_cleanBaseUrl_all_iff clean]
  constructor
  · rintro ⟨-, tidy, -⟩
    exact (isTidy_iff.mp tidy).2
  · intro last
    exact ⟨cleanBaseUrl_ne_empty clean, isTidy_iff.mpr ⟨head?_cleanBaseUrl_all clean, last⟩,
      getLast?_cleanBaseUrl_ne clean⟩

/-- Exactly the clean addresses are not changed by cleaning. -/
theorem cleanBaseUrl_eq_self_iff : cleanBaseUrl raw fallback = raw ↔ IsCleanBase raw := by
  constructor
  · intro same
    rcases cleanBaseUrl_cases raw fallback with ⟨-, cleaned⟩ | ⟨filled, cleaned⟩
    · rw [← same, cleaned]
      exact clean
    · have bare : bareBase raw = raw := cleaned.symm.trans same
      have last := getLast?_dropTrailingSlashes_ne (trim raw)
      rw [← bareBase, bare] at last
      rw [bare] at filled
      exact ⟨filled, isTidy_of_bareBase_eq bare, last⟩
  · rintro ⟨filled, tidy, bare⟩
    have same : bareBase raw = raw := by
      rw [bareBase, trim_of_isTidy tidy, dropTrailingSlashes_of_getLast?_ne bare]
    rcases cleanBaseUrl_cases raw fallback with ⟨empty, -⟩ | ⟨-, cleaned⟩
    · exact absurd (same.symm.trans empty) filled
    · exact cleaned.trans same

end Clean

/-! ## Addresses of pictures behind a base -/

/-- Is a character neither blank nor a slash? -/
def isOrdinary (character : Char) : Bool := ! isBlank character && character != '/'

/-- An address is joined cleanly to its base: one slash stands between them, and neither a blank nor
a second slash beside it. -/
def JoinsCleanly (base url : String) : Prop :=
  ∃ rest, url = base ++ "/" ++ rest ∧ base.toList.getLast?.all isOrdinary = true ∧
    rest.toList.head?.all isOrdinary = true

theorem Percent.all_isOrdinary_encode (text : String) :
    (encode text).toList.all isOrdinary = true := by
  apply Urlencoded.all_percentEncode
  apply Urlencoded.forall_octet
  decide +kernel

namespace AvatarService

variable (service : AvatarService) (seed : String)

theorem head?_relativePath_all :
    (service.relativePath seed).toList.head?.all isOrdinary = true := by
  rcases service.exists_relativePath_eq seed with ⟨text, rest, filled, path⟩
  rcases Percent.exists_encode_eq_cons filled with ⟨first, others, written, -⟩
  have ordinary := Percent.all_isOrdinary_encode text
  rw [written, List.all_cons, Bool.and_eq_true] at ordinary
  rw [path, String.toList_append, written, List.cons_append, List.head?_cons, Option.all_some]
  exact ordinary.1

/-- The address of a picture is joined cleanly to a base without slashes at its end, unless a blank
ends the base. -/
theorem joinsCleanly_url_iff (bare : service.base.toList.getLast? ≠ some '/') :
    JoinsCleanly service.base (service.url seed) ↔
      service.base.toList.getLast?.all (! isBlank ·) = true := by
  have ends : service.base.toList.getLast?.all isOrdinary =
      service.base.toList.getLast?.all (! isBlank ·) := by
    cases last : service.base.toList.getLast? with
    | none => rfl
    | some character =>
        have other : (character != '/') = true :=
          bne_iff_ne.mpr fun slash => bare (last.trans (congrArg some slash))
        rw [Option.all_some, Option.all_some, isOrdinary, other, Bool.and_true]
  constructor
  · rintro ⟨rest, -, last, -⟩
    exact ends.symm.trans last
  · intro last
    refine ⟨service.relativePath seed, ?_, ends.trans last, service.head?_relativePath_all seed⟩
    rw [url_eq, dropTrailingSlashes_of_getLast?_ne bare]

end AvatarService

theorem Environment.base_avatarService (environment : Environment) :
    environment.avatarService.base =
      cleanBaseUrl ((environment.get? "AVATAR_BASE_URL").getD "")
        "https://avatars.dicebear.com/api" := by
  rw [avatarService]

/-- Cleaning a base address always gives a text with no blank at its start and no slash at its end.
It gives a clean address, which a second cleaning does not change and which the addresses of
pictures are joined cleanly to, exactly if no blank stands before the slashes at the end of the
given one. -/
theorem cleanBaseUrl_clean_iff (raw fallback : String) (clean : IsCleanBase fallback) :
    let base := cleanBaseUrl raw fallback
    base ≠ "" ∧ base.toList.head?.all (! isBlank ·) = true ∧ base.toList.getLast? ≠ some '/' ∧
      (IsCleanBase base ↔ ¬ BlankBeforeSlashes raw) ∧
      (cleanBaseUrl base fallback = base ↔ ¬ BlankBeforeSlashes raw) ∧
      ∀ (environment : Environment) (seed : String),
        let given := (environment.get? "AVATAR_BASE_URL").getD ""
        let service := environment.avatarService
        JoinsCleanly service.base (service.url seed) ↔ ¬ BlankBeforeSlashes given := by
  intro base
  refine ⟨cleanBaseUrl_ne_empty clean, head?_cleanBaseUrl_all clean, getLast?_cleanBaseUrl_ne clean,
    isCleanBase_cleanBaseUrl_iff clean,
    (cleanBaseUrl_eq_self_iff clean).trans (isCleanBase_cleanBaseUrl_iff clean), ?_⟩
  intro environment seed given service
  have standard : IsCleanBase "https://avatars.dicebear.com/api" :=
    ⟨by decide, by decide, by decide⟩
  have cleaned : service.base = cleanBaseUrl given "https://avatars.dicebear.com/api" :=
    environment.base_avatarService
  have bare : service.base.toList.getLast? ≠ some '/' := by
    rw [cleaned]
    exact getLast?_cleanBaseUrl_ne standard
  rw [service.joinsCleanly_url_iff seed bare, cleaned]
  exact getLast?_cleanBaseUrl_all_iff standard

/-- Blanks behind the slashes at the end are cleaned off with them, blanks before them are not. -/
theorem cleanBaseUrl_clean_iff_of_mixed :
    let fallback := "https://fallback.example"
    IsCleanBase fallback ∧
      IsCleanBase (cleanBaseUrl " https://a.example/api//\t" fallback) ∧
      ¬ IsCleanBase (cleanBaseUrl "https://a.example/api \t/" fallback) := by
  intro fallback
  have clean : IsCleanBase fallback := ⟨by decide, by decide, by decide⟩
  refine ⟨clean, (cleanBaseUrl_clean_iff _ fallback clean).2.2.2.1.mpr ?_, ?_⟩
  · rw [not_blankBeforeSlashes_iff]
    decide
  · intro cleaned
    apply (cleanBaseUrl_clean_iff _ fallback clean).2.2.2.1.mp cleaned
    exact ⟨"https://a.example/api ".toList, '\t', ['/'], by decide, by decide, by simp⟩

/-- A blank before the slash at the end is kept, and a second cleaning takes it off. -/
theorem blank_before_slash_is_kept :
    let fallback := "https://avatars.dicebear.com/api"
    IsCleanBase fallback ∧
      cleanBaseUrl "https://a.example/api /" fallback = "https://a.example/api " ∧
      ¬ IsCleanBase (cleanBaseUrl "https://a.example/api /" fallback) ∧
      cleanBaseUrl (cleanBaseUrl "https://a.example/api /" fallback) fallback =
        "https://a.example/api" ∧
      (Environment.avatarService ⟨[("AVATAR_BASE_URL", "https://a.example/api /")]⟩).url "ada" =
        "https://a.example/api /bottts/ada.svg" := by
  refine ⟨⟨by decide, by decide, by decide⟩, by decide, ?_, by decide, by decide⟩
  intro clean
  exact absurd clean.tidy (by decide)

end AccountPanel
