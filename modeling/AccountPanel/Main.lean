import AccountPanel.Program

/-!
# The command

The program run on the real files and the real environment, with the log turned off.
-/

namespace AccountPanel.Main

/-- Read a file. A path is looked up in the working directory only, so an environment file without a
name is not searched for in the directories above it. -/
def readFile (path : String) : IO (Except Files.ReadError (List UInt8)) := do
  try
    return .ok (← IO.FS.readBinFile path).toList
  catch error =>
    return .error <| match error with
      | .noFileOrDirectory .. => .notFound
      | .inappropriateType .. => .isDirectory
      | error => .other (toString error)

/-- The contents of files, each with its path. -/
abbrev Contents := List (String × Except Files.ReadError (List UInt8))

/-- The variables that can matter: those of the settings and those that a file mentions. -/
def variableNames (contents : Contents) : List String :=
  Environment.settingNames ++ contents.flatMap fun (_, content) =>
    match content with
    | .ok octets => EnvFile.mentioned (Text.Utf8.decodeLossy octets)
    | .error _ => []

/-- Look up variables by name. -/
def readVariables (names : List String) : IO (List (String × String)) := do
  return (← names.mapM fun name => do
    return (← IO.getEnv name).map fun text => (name, text)).reduceOption

/-- Show what a command line comes to. A site cannot be served here, because no listener is at
hand. -/
def report : Outcome → IO UInt32
  | .finished status output errors => do
    IO.print output
    IO.eprint errors
    return UInt32.ofNat status
  | .serving .. => do
    IO.eprint "Error: no listener\n"
    return 1

end AccountPanel.Main

open AccountPanel

/-- Run the program on the real files and the real environment. -/
def main (words : List String) : IO UInt32 := do
  let contents ← (Program.files words).mapM fun path => do
    return (path, ← Main.readFile path)
  let found ← Main.readVariables (Main.variableNames contents)
  Main.report
    (Program.run
      { environment := ⟨found⟩
        read := fun path => (contents.lookup path).getD (.error .notFound) }
      words)
