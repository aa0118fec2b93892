import AccountPanel.CommandLine.UsageError

/-!
# Reading the words of a command

The words behind a command are read from left to right. An option that takes a value waits for the
next word, unless that word begins with a dash; a waiting option is settled when the next option
comes or the words end. The first fault ends the reading, and so does a request for help.
-/

namespace AccountPanel.CommandLine

/-- Why the reading of a command line ends early. -/
inductive Stop where
  | help (scope : Scope)
  | version
  | fault (error : UsageError)
  deriving Repr, DecidableEq

/-- The options of a command that have been read. -/
structure Given where
  /-- The options in order, with their values. A flag has an empty value. -/
  values : List (Opt × String) := []
  /-- Has an own option of the command been given? -/
  group : Bool := false
  /-- The last option, which is not settled yet, and its value if that was there. -/
  waiting : Option (Opt × Option String) := none
  deriving Repr, DecidableEq

namespace Given

/-- The value of an option, or its default. -/
def value (given : Given) (option : Opt) : Option String :=
  (given.values.lookup option).or option.default?

/-- Is a flag given? -/
def has (given : Given) (option : Opt) : Bool := (given.values.lookup option).isSome

/-- Is the last option waiting for its value? -/
def awaitsValue (given : Given) : Bool :=
  match given.waiting with
  | some (_, none) => true
  | _ => false

/-- The usage that names the options that were given and some more. -/
def usage (given : Given) (scope : Scope) (more : List Opt) : Usage where
  scope := scope
  options := given.values.map (·.1) ++ more
  group := given.group

/-- A value that an option does not admit. -/
def invalid? (option : Opt) (value : String) : Option UsageError :=
  if option = .port then
    match readPort value with
    | .ok _ => none
    | .error reason => some (.invalidValue option value reason)
  else none

/-- Take an option with its value. An option may be given once. -/
def accept (given : Given) (scope : Scope) (option : Opt) (value : String) :
    Given × Option UsageError :=
  if given.has option then
    ({ given with values := given.values.filter (·.1 != option) },
      some (.repeated scope option))
  else
    ({ given with
        values := given.values ++ [(option, value)]
        group := given.group || scope.own.contains option },
      invalid? option value)

/-- Settle the option that is waiting. -/
def settle (given : Given) (scope : Scope) : Given × Option UsageError :=
  let settled := { given with waiting := none }
  match given.waiting with
  | none => (settled, none)
  | some (option, none) => (settled, some (.missingValue option))
  | some (option, some value) => settled.accept scope option value

/-- Settle the option that is waiting, which has to be without fault. -/
def settled (given : Given) (scope : Scope) : Except Stop Given :=
  match given.settle scope with
  | (given, none) => .ok given
  | (_, some error) => .error (.fault error)

/-- Settle the option that is waiting and take another with its value. -/
def take (given : Given) (scope : Scope) (option : Opt) (value : String) :
    Except Stop Given := do
  match (← given.settled scope).accept scope option value with
  | (given, none) => return given
  | (_, some error) => .error (.fault error)

/-- Take a flag. Those for help and for the version end the reading. -/
def takeFlag (given : Given) (scope : Scope) (option : Opt) : Except Stop Given := do
  match option with
  | .help =>
    let _ ← given.settled scope
    .error (.help scope)
  | .version =>
    let _ ← given.settled scope
    .error .version
  | option => given.take scope option ""

/-- The option among `options` that is the most similar to a word. -/
def similarOption? (word : String) (options : List Opt) : Option Opt :=
  match (similarWords word (options.map Opt.long)).getLast? with
  | some long => options.find? (·.long == long)
  | none => none

/-- The tip for an unknown option: a similar one of the same command, or else one of a command
that is called later. -/
def tip? (scope : Scope) (word : String) (rest : List String) : Option Tip :=
  match similarOption? word scope.options with
  | some option => some (.option option)
  | none =>
    let called := rest.filterMap scope.command?
    called.findSome? fun command =>
      (similarOption? word command.options).map (.elsewhere command)

/-- The fault of an unknown option. Its usage names every option on its own. -/
def unknownOption (given : Given) (scope : Scope) (word : String) (rest : List String) :
    UsageError :=
  let given := (given.settle scope).1
  let tip := tip? scope word rest
  let suggested := match tip with
    | some (.option option) => [option]
    | _ => []
  .unknownArgument ("--" ++ word) tip { given.usage scope suggested with group := false }

/-- Take a word behind two dashes; `rest` are the words behind it. -/
def takeLong (given : Given) (scope : Scope) (word : String) (rest : List String) :
    Except Stop Given := do
  let name := String.ofList (word.toList.takeWhile (· != '='))
  let attached := word.toList.dropWhile (· != '=')
  let value := String.ofList (attached.drop 1)
  match scope.long? name with
  | none => .error (.fault (given.unknownOption scope name rest))
  | some option =>
    if option.takesValue then
      if attached.isEmpty then
        return { ← given.settled scope with waiting := some (option, none) }
      else given.take scope option value
    else if attached.isEmpty then given.takeFlag scope option
    else
      .error (.fault (.unneededValue option value (given.usage scope [option])))

/-- Take the first letter behind one dash. All such letters stand for flags that end the
reading. -/
def takeShort (given : Given) (scope : Scope) (letter : Char) : Except Stop Given :=
  match scope.short? letter with
  | some option => given.takeFlag scope option
  | none =>
    .error (.fault (.unknownArgument ("-" ++ letter.toString) none { scope }))

/-- The fault of a word that is no option. `trailing` says whether two dashes came before it. -/
def unknownWord (scope : Scope) (word : String) (trailing : Bool) : UsageError :=
  if trailing && (scope.command? word).isSome then
    .unknownArgument word (some (.command word)) { scope }
  else if scope.commands.isEmpty then .unknownArgument word none { scope }
  else .unknownCommand scope word (similarWords word (scope.commands.map Scope.name))

/-- Read words up to their end or to the name of a command, which is returned with the words
behind it. -/
def read (given : Given) (scope : Scope) :
    List String → Except Stop (Given × Option (Scope × List String))
  | [] => do return (← given.settled scope, none)
  | word :: rest =>
    let command := if given.awaitsValue then none else scope.command? word
    match command, word.toList with
    | some command, _ => do return (← given.settled scope, some (command, rest))
    | none, ['-', '-'] =>
      match rest with
      | [] => do return (← given.settled scope, none)
      | word :: _ => .error (.fault (unknownWord scope word true))
    | none, '-' :: '-' :: long => do
      (← given.takeLong scope (String.ofList long) rest).read scope rest
    | none, '-' :: letter :: _ => do (← given.takeShort scope letter).read scope rest
    | none, _ =>
      match given.waiting with
      | some (option, none) =>
        { given with waiting := some (option, some word) }.read scope rest
      | _ => .error (.fault (unknownWord scope word false))

end Given

end AccountPanel.CommandLine
