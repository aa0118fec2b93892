import AccountPanel.Proofs.EnvFile.Assignment
import AccountPanel.Proofs.Text.Trailing
import AccountPanel.Settings

/-!
# Where settings come from

A setting is the text of its variable in the environment at the start, or else the text that a file
assigns to it first, and a fallback takes the place of a text that is missing or blank. A blank text
at the start still keeps the file out.
-/

namespace AccountPanel

open Text

/-! ## Full names -/

/-- A full name is made of those of the two names that are not empty. -/
theorem Profile.fullName_eq {profile : Profile} (first : isTidy profile.firstName = true)
    (last : isTidy profile.lastName = true) :
    profile.fullName =
      " ".intercalate ([profile.firstName, profile.lastName].filter (! ·.isEmpty)) := by
  rw [Profile.fullName]
  by_cases noFirst : profile.firstName = ""
  · rw [noFirst, String.empty_append, trim_space_append, trim_of_isTidy last]
    by_cases noLast : profile.lastName = ""
    · simp [noLast]
    · simp [noLast]
  · by_cases noLast : profile.lastName = ""
    · rw [noLast, String.append_empty, trim_append_space, trim_of_isTidy first]
      simp [noFirst]
    · rw [trim_of_isTidy (isTidy_append " " noFirst noLast first last)]
      simp [noFirst, noLast, String.intercalate_cons_cons]

/-! ## Settings that are texts -/

/-- What a setting is for a given text. A blank text counts as missing. -/
def settled (given : Option String) (fallback : String) : String :=
  match given with
  | none => fallback
  | some text => if isBlankText text then fallback else trim text

theorem getD_nonBlank? (environment : Environment) (name fallback : String) :
    (environment.nonBlank? name).getD fallback = settled (environment.get? name) fallback := by
  rw [Environment.nonBlank?]
  cases environment.get? name with
  | none => rfl
  | some text =>
      simp only [settled, Option.map_some]
      by_cases blank : isBlankText text = true
      · rw [if_pos blank, (trim_eq_empty_iff text).mpr blank]
        rfl
      · have filled : (trim text).isEmpty = false := by
          rw [Bool.eq_false_iff, ne_eq, String.isEmpty_iff, trim_eq_empty_iff]
          exact blank
        rw [if_neg blank, Option.filter_some_pos (by simp [filled])]
        rfl

theorem isTidy_settled (given : Option String) {fallback : String}
    (tidy : isTidy fallback = true) : isTidy (settled given fallback) = true := by
  cases given with
  | none => exact tidy
  | some text =>
      simp only [settled]
      split
      · exact tidy
      · exact isTidy_trim text

theorem isBlankText_settled (given : Option String) {fallback : String}
    (filled : isBlankText fallback = false) : isBlankText (settled given fallback) = false := by
  cases given with
  | none => exact filled
  | some text =>
      simp only [settled]
      split
      · exact filled
      next notBlank =>
        rw [← trim_eq_empty_iff] at notBlank
        rw [Bool.eq_false_iff, ne_eq, ← trim_eq_empty_iff, trim_trim]
        exact notBlank

/-- A setting that is a text: its variable, its fallback, and where it is read. -/
structure TextSetting where
  name : String
  fallback : String
  read : Environment → String

def textSettings : List TextSetting :=
  [⟨"AVATAR_STYLE", "bottts", fun environment => environment.avatarService.style⟩,
    ⟨"PROFILE_FIRST_NAME", "", fun environment => environment.profile.firstName⟩,
    ⟨"PROFILE_LAST_NAME", "", fun environment => environment.profile.lastName⟩,
    ⟨"PROFILE_USERNAME", "user", fun environment => environment.profile.username⟩,
    ⟨"PROFILE_EMAIL", "", fun environment => environment.profile.email⟩]

theorem read_eq_settled (environment : Environment) :
    ∀ setting ∈ textSettings,
      setting.read environment = settled (environment.get? setting.name) setting.fallback := by
  have read := getD_nonBlank? environment
  simp only [textSettings, List.forall_mem_cons]
  exact ⟨read _ _, read _ _, read _ _, read _ _, read _ _, List.forall_mem_nil _⟩

theorem isTidy_read (environment : Environment) :
    ∀ setting ∈ textSettings, isTidy (setting.read environment) = true := by
  have fallbacks : ∀ setting ∈ textSettings, isTidy setting.fallback = true := by decide
  intro setting member
  rw [read_eq_settled environment setting member]
  exact isTidy_settled _ (fallbacks setting member)

/-! ## Settings behind a file -/

/-- The octets of a file, or none at all if it cannot be read. -/
def Files.Reader.contents (read : Files.Reader) (path : String) : List UInt8 :=
  match read path with
  | .ok octets => octets
  | .error _ => []

namespace Environment

variable (environment : Environment) (read : Files.Reader) (path : Option String)

/-- The lines of a file that loading it carries out. -/
def carriedOut : List (Option (List Char)) := EnvFile.carriedOut (read.contents (path.getD ".env"))

theorem loadFile_eq :
    environment.loadFile read path = EnvFile.loadLines environment (carriedOut read path) := by
  rw [carriedOut, ← EnvFile.load_eq, loadFile, Files.Reader.contents]
  cases read (path.getD ".env") with
  | ok octets => rfl
  | error _ => rfl

/-- Behind a file, a variable has the text it had before, or else that of the first assignment. -/
theorem get?_loadFile (name : String) :
    (environment.loadFile read path).get? name =
      (environment.get? name).or
        (EnvFile.firstAssigned? environment (carriedOut read path) name) := by
  rw [loadFile_eq]
  exact EnvFile.get?_loadLines environment EnvFile.isWellFormed_of_mem_carriedOut name

theorem loadFile_loadFile :
    (environment.loadFile read path).loadFile read path = environment.loadFile read path := by
  simp only [loadFile_eq]
  exact EnvFile.loadLines_loadLines environment EnvFile.isWellFormed_of_mem_carriedOut

end Environment

/-- What an environment file does to the settings. A variable with a text keeps it. Complete lines
before a fault have the effect of a file of their own, and what comes behind the fault has none.
To load the file again changes nothing. A setting is the text that its variable had before, or else
the first text assigned to it, without the blanks at its ends; the fallback stands for a text that
is missing or blank, and a blank text from before is not replaced by one from the file. -/
theorem settings_by_precedence (bindings : List (String × List UInt8)) (read : Files.Reader)
    (path : Option String) :
    let environment := Environment.ofOctets bindings
    let octets := read.contents (path.getD ".env")
    let run := EnvFile.carriedOut octets
    let loaded := environment.loadFile read path
    ((bindings.map (·.1)).Nodup → ∀ name,
        environment.get? name = (bindings.lookup name).bind Environment.textOf?) ∧
      (∀ name text, environment.get? name = some text → loaded.get? name = some text) ∧
      (∀ front behind alone, EnvFile.dropByteOrderMark octets = front ++ behind →
        EnvFile.IsWhole front → EnvFile.startsWithFault behind = true →
        EnvFile.dropByteOrderMark alone = front →
          run = EnvFile.lines alone ∧ loaded = EnvFile.load environment alone) ∧
      loaded.loadFile read path = loaded ∧
      (∀ setting ∈ textSettings,
        setting.read loaded =
          settled
            ((environment.get? setting.name).or
              (EnvFile.firstAssigned? environment run setting.name))
            setting.fallback ∧
        (∀ text, environment.get? setting.name = some text → isBlankText text = true →
          setting.read loaded = setting.fallback) ∧
        isTidy (setting.read loaded) = true) ∧
      isBlankText loaded.avatarService.style = false ∧
      isBlankText loaded.profile.username = false ∧
      loaded.profile.fullName =
        " ".intercalate
          ([loaded.profile.firstName, loaded.profile.lastName].filter (! ·.isEmpty)) := by
  intro environment octets run loaded
  have found : ∀ name, loaded.get? name =
      (environment.get? name).or (EnvFile.firstAssigned? environment run name) :=
    environment.get?_loadFile read path
  have fields : ∀ setting ∈ textSettings, setting.read loaded =
      settled
        ((environment.get? setting.name).or
          (EnvFile.firstAssigned? environment run setting.name))
        setting.fallback := by
    intro setting member
    rw [read_eq_settled loaded setting member, found]
  have tidy := isTidy_read loaded
  refine ⟨Environment.get?_ofOctets, ?_, ?_, environment.loadFile_loadFile read path, ?_, ?_, ?_,
    ?_⟩
  · intro name text given
    rw [found, given, Option.some_or]
  · intro front behind alone split whole fault same
    have carried : run = EnvFile.lines alone := by
      rw [EnvFile.lines, same]
      exact EnvFile.carriedOut_of_fault split whole fault
    refine ⟨carried, ?_⟩
    rw [EnvFile.load, ← carried]
    exact environment.loadFile_eq read path
  · intro setting member
    refine ⟨fields setting member, ?_, tidy setting member⟩
    intro text given blank
    rw [fields setting member, given, Option.some_or]
    exact if_pos blank
  · rw [show loaded.avatarService.style = _ from getD_nonBlank? loaded _ _]
    exact isBlankText_settled _ (by decide)
  · rw [show loaded.profile.username = _ from getD_nonBlank? loaded _ _]
    exact isBlankText_settled _ (by decide)
  · simp only [textSettings, List.forall_mem_cons] at tidy
    exact Profile.fullName_eq tidy.2.1 tidy.2.2.1

/-- A blank text from before stays, octets that are no text give way, the first of two assignments
counts, and there is a fault before the last line. -/
theorem settings_by_precedence_of_fault :
    let bindings := [("PROFILE_USERNAME", [0x20]), ("PROFILE_FIRST_NAME", Utf8.encode "Ada".toList),
      ("AVATAR_STYLE", [0xFF])]
    let front :=
      ["PROFILE_USERNAME=ada\n", "export AVATAR_STYLE='pixel-art' # a style\n",
        "PROFILE_LAST_NAME=\"King ", "$\x7bPROFILE_FIRST_NAME\x7d\n\"\n",
        "PROFILE_LAST_NAME=again\n"].flatMap (Utf8.encode ·.toList)
    let behind := ["no assignment\n", "PROFILE_EMAIL=ada\n"].flatMap (Utf8.encode ·.toList)
    let environment := Environment.ofOctets bindings
    let loaded := environment.loadFile (fun _ => .ok (front ++ behind)) none
    environment.get? "AVATAR_STYLE" = none ∧ EnvFile.startsWithFault behind = true ∧
      loaded = EnvFile.load environment front ∧ loaded.profile.username = "user" ∧
      loaded.avatarService.style = "pixel-art" ∧ loaded.profile.lastName = "King Ada" := by
  intro bindings front behind environment loaded
  have distinct : (bindings.map (·.1)).Nodup := by decide
  have whole : EnvFile.IsWhole front := ⟨by decide +kernel, by decide +kernel⟩
  have fault : EnvFile.startsWithFault behind = true := by decide +kernel
  have unmarked : EnvFile.dropByteOrderMark (front ++ behind) = front ++ behind := by
    decide +kernel
  have alone : EnvFile.dropByteOrderMark front = front := by decide +kernel
  have blank : environment.get? "PROFILE_USERNAME" = some " " := by decide
  rcases settings_by_precedence bindings (fun _ => .ok (front ++ behind)) none with
    ⟨looked, -, partly, -, fields, -⟩
  simp only [textSettings, List.forall_mem_cons] at fields
  obtain ⟨style, -, lastName, username, -⟩ := fields
  have effect := (partly front behind front unmarked whole fault alone).2
  refine ⟨looked distinct _, fault, effect, username.2.1 " " blank (by decide), ?_, ?_⟩
  · rw [style.1]
    decide +kernel
  · rw [lastName.1]
    decide +kernel

end AccountPanel
