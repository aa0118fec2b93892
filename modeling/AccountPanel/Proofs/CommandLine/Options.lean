import AccountPanel.CommandLine.Invocation
import AccountPanel.Proofs.Lookup

/-!
# Options as they are written

An option with its value is written as one word. Words of options are read one by one, each without
fault unless its option was there before, and what a request takes from them does not depend on
their order. So a request to print the page is read back from the words of its options.
-/

namespace AccountPanel.CommandLine

/-- An option with its value. A flag has an empty value. -/
abbrev Setting := Opt × String

namespace Setting

variable (setting : Setting)

/-- What stands behind the name of an option: an equals sign and its value, unless it is a flag. -/
def attached : List Char := if setting.1.takesValue then '=' :: setting.2.toList else []

/-- An option with its value as one word. -/
def word : String := setting.1.dashed ++ String.ofList setting.attached

theorem toList_word :
    setting.word.toList = '-' :: '-' :: (setting.1.long.toList ++ setting.attached) := by
  simp only [word, Opt.dashed, String.toList_append, String.toList_ofList, List.append_assoc]
  rfl

example : word (.tab, "ssh-keys") = "--tab=ssh-keys" := by decide

example : word (.modal, "") = "--modal" := by decide

/-- No name of an option holds an equals sign. -/
theorem ne_equals_of_mem_long {option : Opt} :
    ∀ character ∈ option.long.toList, (character != '=') = true := by
  rw [← List.all_eq_true]
  cases option <;> decide

theorem takeWhile_word :
    (setting.1.long.toList ++ setting.attached).takeWhile (· != '=') = setting.1.long.toList := by
  rw [List.takeWhile_append_of_pos ne_equals_of_mem_long, attached]
  split <;> simp

theorem dropWhile_word :
    (setting.1.long.toList ++ setting.attached).dropWhile (· != '=') = setting.attached := by
  rw [List.dropWhile_append_of_pos ne_equals_of_mem_long, attached]
  split <;> simp

/-- An option that occurs once has the same value in any order of the options. -/
theorem lookup_eq_of_perm {settings others : List Setting} (order : settings.Perm others)
    (distinct : (settings.map (·.1)).Nodup) (option : Opt) :
    settings.lookup option = others.lookup option :=
  Lookup.lookup_eq_of_perm (order.filter _) (List.nodup_iff_count_le_one.mp distinct option)

end Setting

/-- Does a command take an option with this value and read on? -/
structure Scope.Takes (scope : Scope) (setting : Setting) : Prop where
  known : setting.1 ∈ scope.options
  goesOn : setting.1 ∉ [Opt.help, Opt.version]
  valid : Given.invalid? setting.1 setting.2 = none
  flag : setting.1.takesValue = false → setting.2 = ""

theorem Scope.long?_long {scope : Scope} {option : Opt} (known : option ∈ scope.options) :
    scope.long? option.long = some option := by
  revert known
  cases scope <;> cases option <;> decide

/-- No command is called by a word that begins with a dash. -/
theorem Scope.command?_of_dash {scope : Scope} {word : String} {letters : List Char}
    (dashed : word.toList = '-' :: letters) : scope.command? word = none := by
  have plain : ∀ command : Scope, command.name.toList.head? ≠ some '-' := by
    intro command
    cases command <;> decide
  refine List.find?_eq_none.mpr fun command _ called => plain command ?_
  rw [eq_of_beq called, dashed]
  rfl

namespace Given

variable {given : Given} {scope : Scope} {setting : Setting}

/-- The options that were read and one more with its value. -/
def append (given : Given) (scope : Scope) (setting : Setting) : Given :=
  { given with
    values := given.values ++ [setting]
    group := given.group || scope.own.contains setting.1 }

theorem settled_of_no_waiting (nothing : given.waiting = none) :
    given.settled scope = .ok given := by
  cases given
  cases nothing
  rfl

theorem has_eq_false_of_notMem {option : Opt} (absent : option ∉ given.values.map (·.1)) :
    given.has option = false := by
  rw [has, Option.isSome_eq_false_iff, Option.isNone_iff_eq_none, List.lookup_eq_none_iff]
  intro setting member
  exact bne_iff_ne.mpr fun same => absent (List.mem_map.mpr ⟨setting, member, same.symm⟩)

/-- An option that is new is taken with its value. -/
theorem take_of_fresh (takes : scope.Takes setting) (nothing : given.waiting = none)
    (fresh : given.has setting.1 = false) :
    given.take scope setting.1 setting.2 = .ok (given.append scope setting) := by
  rw [take, settled_of_no_waiting nothing]
  simp only [bind, Except.bind, accept, fresh, takes.valid]
  rfl

theorem takeFlag_of_goesOn {option : Opt} (goesOn : option ∉ [Opt.help, Opt.version]) :
    given.takeFlag scope option = given.take scope option "" := by
  cases option with
  | help | version => exact absurd (by decide) goesOn
  | host | port | envFile | stylesheet | keysFile | tab | modal | noColor => rfl

/-- What stands behind the dashes of an option's word is taken as the option with its value. -/
theorem takeLong_of_takes (takes : scope.Takes setting) (nothing : given.waiting = none)
    (fresh : given.has setting.1 = false) (rest : List String) :
    given.takeLong scope (String.ofList (setting.1.long.toList ++ setting.attached)) rest =
      .ok (given.append scope setting) := by
  have taken := take_of_fresh takes nothing fresh
  rw [takeLong, String.toList_ofList, setting.takeWhile_word, setting.dropWhile_word,
    String.ofList_toList, Scope.long?_long takes.known]
  by_cases valued : setting.1.takesValue = true
  · simpa [Setting.attached, valued] using taken
  · rw [takes.flag (eq_false_of_ne_true valued)] at taken
    simpa [Setting.attached, valued, takeFlag_of_goesOn takes.goesOn] using taken

/-- The word of an option that is new adds the option with its value. -/
theorem read_word (takes : scope.Takes setting) (nothing : given.waiting = none)
    (fresh : given.has setting.1 = false) (rest : List String) :
    given.read scope (setting.word :: rest) = (given.append scope setting).read scope rest := by
  have letters := setting.toList_word
  have named : setting.1.long.toList ++ setting.attached ≠ [] := by
    have long : setting.1.long.toList ≠ [] := by cases setting.1 <;> decide
    exact List.append_ne_nil_of_left_ne_nil long _
  have taken := takeLong_of_takes takes nothing fresh rest
  rw [read.eq_def]
  simp only [Scope.command?_of_dash letters, letters, ite_self]
  cases behind : setting.1.long.toList ++ setting.attached with
  | nil => exact absurd behind named
  | cons letter more =>
      rw [behind] at taken
      simp only [taken]
      rfl

/-- The words of distinct options add them with their values, in order. -/
theorem read_words {settings : List Setting} (takes : ∀ setting ∈ settings, scope.Takes setting)
    (nothing : given.waiting = none)
    (distinct : ((given.values ++ settings).map (·.1)).Nodup) :
    ∃ next, given.read scope (settings.map Setting.word) = .ok (next, none) ∧
      next.values = given.values ++ settings := by
  -- What was read and what is still to come stay distinct together, so each option is new in turn.
  induction settings generalizing given with
  | nil =>
      refine ⟨given, ?_, (List.append_nil _).symm⟩
      rw [List.map_nil, read, settled_of_no_waiting nothing]
      rfl
  | cons setting settings ih =>
      have fresh : given.has setting.1 = false := by
        rw [List.map_append, List.map_cons] at distinct
        refine has_eq_false_of_notMem fun member => ?_
        exact List.disjoint_of_nodup_append distinct member List.mem_cons_self
      rcases List.forall_mem_cons.mp takes with ⟨first, rest⟩
      have moved : (given.append scope setting).values ++ settings =
          given.values ++ setting :: settings := (List.append_cons _ _ _).symm
      rw [List.map_cons, read_word first nothing fresh, ← moved]
      exact ih rest nothing (moved ▸ distinct)

end Given

/-! ## Requests to print the page -/

namespace RenderRequest

variable (request : RenderRequest)

/-- The options that a request to print the page is written with. -/
def settings : List Setting :=
  [(.tab, request.tab)] ++ (if request.modal then [(.modal, "")] else []) ++
    (request.envFile.map (Opt.envFile, ·)).toList ++
    (request.keysFile.map (Opt.keysFile, ·)).toList

theorem nodup_settings : (request.settings.map (·.1)).Nodup := by
  rcases request with ⟨tab, modal, envFile, keysFile⟩
  cases modal <;> cases envFile <;> cases keysFile <;> simp [settings]

theorem takes_of_own {option : Opt} {value : String} (own : option ∈ Scope.render.own)
    (flag : option = .modal → value = "") : Scope.render.Takes (option, value) where
  known := List.mem_append_left _ own
  goesOn := by
    have apart : ∀ option ∈ Scope.render.own, option ∉ [Opt.help, Opt.version] := by decide
    exact apart option own
  valid := by
    have noPort : ∀ option ∈ Scope.render.own, option ≠ .port := by decide
    exact if_neg (noPort option own)
  flag := by
    have only : ∀ option ∈ Scope.render.own, option.takesValue = false → option = .modal := by
      decide
    exact fun valueless => flag (only option own valueless)

theorem takes_settings : ∀ setting ∈ request.settings, Scope.render.Takes setting := by
  intro setting member
  simp only [settings, List.mem_append, List.mem_singleton, Option.mem_toList,
    Option.map_eq_some_iff, List.mem_ite_nil_right] at member
  rcases member with ((rfl | ⟨-, rfl⟩) | ⟨path, -, rfl⟩) | ⟨path, -, rfl⟩
  · exact takes_of_own (by decide) nofun
  · exact takes_of_own (by decide) fun _ => rfl
  · exact takes_of_own (by decide) nofun
  · exact takes_of_own (by decide) nofun

/-- What a request says is what its options hold. -/
theorem renderRequest_of_values {given : Given}
    (values : ∀ option, given.values.lookup option = request.settings.lookup option) :
    given.renderRequest = request := by
  rcases request with ⟨tab, modal, envFile, keysFile⟩
  simp only [Given.renderRequest, Given.value, Given.has, values, settings]
  cases modal <;> cases envFile <;> cases keysFile <;> rfl

theorem lookup_noColor : request.settings.lookup .noColor = none := by
  rcases request with ⟨tab, modal, envFile, keysFile⟩
  cases modal <;> cases envFile <;> cases keysFile <;> rfl

end RenderRequest

/-- The words of the options of a request, in any order, are read as that request. -/
theorem parse_render (request : RenderRequest) {settings : List Setting}
    (order : settings.Perm request.settings) :
    parse ("render" :: settings.map Setting.word) = .ok ⟨.render request, true⟩ := by
  have distinct : (settings.map (·.1)).Nodup :=
    ((order.map _).nodup_iff).mpr request.nodup_settings
  have takes : ∀ setting ∈ settings, Scope.render.Takes setting := fun setting member =>
    request.takes_settings setting (order.mem_iff.mp member)
  have command : Given.read {} .program ("render" :: settings.map Setting.word) =
      .ok ({}, some (.render, settings.map Setting.word)) := by
    rfl
  have read : ∃ given, Given.read {} .render (settings.map Setting.word) = .ok (given, none) ∧
      given.values = [] ++ settings := Given.read_words takes rfl distinct
  rcases read with ⟨given, read, values⟩
  have same (option : Opt) : given.values.lookup option = request.settings.lookup option := by
    rw [values, List.nil_append]
    exact Setting.lookup_eq_of_perm order distinct option
  have colored : given.has .noColor = false := by
    rw [Given.has, same, request.lookup_noColor]
    rfl
  rw [parse, command]
  simp only [bind, Except.bind, read, request.renderRequest_of_values same, colored]
  rfl

example :
    parse ["render", "--modal", "--env-file=site.env", "--tab=ssh-keys"] =
      .ok ⟨.render ⟨"ssh-keys", true, some "site.env", none⟩, true⟩ := by
  rfl

end AccountPanel.CommandLine
