import AccountPanel.Text.Parts
import AccountPanel.Text.Utf8

/-!
# Reading files

What can come of reading a file, and a tree of files in which paths are looked up segment by
segment. Paths start from a working directory that is the root of the tree, or, behind a slash, from
the root of the system, of which only the usual directories are known.
-/

namespace AccountPanel.Files

/-- Why a file cannot be read. -/
inductive ReadError where
  | notFound
  | notDirectory
  | isDirectory
  | nameTooLong
  | nulInName
  | notText
  | other (message : String)
  deriving Repr, DecidableEq

/-- The words for an error. -/
def ReadError.message : ReadError → String
  | .notFound => "No such file or directory (os error 2)"
  | .notDirectory => "Not a directory (os error 20)"
  | .isDirectory => "Is a directory (os error 21)"
  | .nameTooLong => "File name too long (os error 36)"
  | .nulInName => "file name contained an unexpected NUL byte"
  | .notText => "stream did not contain valid UTF-8"
  | .other message => message

/-- A way to get the octets of a file. -/
abbrev Reader := String → Except ReadError (List UInt8)

/-- The characters of a file, which has to be valid UTF-8. -/
def Reader.text (read : Reader) (path : String) : Except ReadError (List Char) :=
  match read path with
  | .error error => .error error
  | .ok octets =>
    match Text.Utf8.decode? octets with
    | some characters => .ok characters
    | none => .error .notText

/-- The parts of a path between its slashes. -/
def segments (path : String) : List (List Char) := Text.partsBetween '/' path.toList

/-- Files below a working directory. A directory is there if a file is below it or if it is listed
on its own. -/
structure Tree where
  files : List (List (List Char) × List UInt8) := []
  directories : List (List (List Char)) := []

/-- What a path can lead to. -/
inductive Place where
  /-- A directory below the working directory, which is `inside []` itself. -/
  | inside (segments : List (List Char))
  | file (octets : List UInt8)
  /-- A directory above the working directory, of which nothing is known. -/
  | above
  /-- A directory of the system, which is `system []` for the root. -/
  | system (segments : List (List Char))
  deriving Repr, DecidableEq

/-- The directories below the root of every system. -/
def systemDirectories : List String :=
  ["bin", "boot", "dev", "etc", "home", "lib", "media", "mnt", "opt", "proc", "root", "run", "sbin",
    "srv", "sys", "tmp", "usr", "var"]

/-- What stands at a place below the root. The null device reads as an empty file. -/
def systemEntry (location : List (List Char)) : Except ReadError Place :=
  match location.map String.ofList with
  | [name] => if systemDirectories.contains name then .ok (.system location) else .error .notFound
  | ["dev", "null"] => .ok (.file [])
  | _ => .error .notFound

namespace Tree

/-- Where the segments of a name lead. A dot stays where it is and two dots go back. -/
def resolve (segments : List (List Char)) : List (List Char) :=
  segments.foldl
    (fun location segment =>
      if segment = [] ∨ segment = ['.'] then location
      else if segment = ['.', '.'] then location.dropLast
      else location ++ [segment])
    []

/-- The directories that the segments of a name go through. -/
def passed (segments : List (List Char)) : List (List (List Char)) :=
  (List.range segments.length).map fun count => resolve (segments.take count)

/-- The tree of files with relative names. Every directory that a name goes through is made, and a
later file takes the place of an earlier one. -/
def ofList (files : List (String × List UInt8)) : Tree where
  files := files.reverse.map fun (name, octets) => (resolve (segments name), octets)
  directories := files.flatMap fun (name, _) => passed (segments name)

/-- What stands at a place below the working directory. -/
def entry (tree : Tree) (location : List (List Char)) : Except ReadError Place :=
  match tree.files.lookup location with
  | some octets => .ok (.file octets)
  | none =>
    if location.isEmpty || tree.directories.contains location ||
        tree.files.any (location.isPrefixOf ·.1) then
      .ok (.inside location)
    else .error .notFound

/-- The directory that holds a place. The root holds itself. -/
def parent : Place → Place
  | .inside [] => .above
  | .inside location => .inside location.dropLast
  | .system location => .system location.dropLast
  | place => place

/-- What a name stands for at a place. -/
def child (tree : Tree) (place : Place) (name : List Char) : Except ReadError Place :=
  match place with
  | .inside location => tree.entry (location ++ [name])
  | .system location => systemEntry (location ++ [name])
  | .file _ => .error .notDirectory
  | .above => .error .notFound

/-- Follow one segment of a path. -/
def follow (tree : Tree) (place : Place) (segment : List Char) : Except ReadError Place :=
  match place with
  | .file _ => .error .notDirectory
  | place =>
    if segment = [] ∨ segment = ['.'] then .ok place
    else if segment = ['.', '.'] then .ok (parent place)
    else if 255 < (Text.Utf8.encode segment).length then .error .nameTooLong
    else tree.child place segment

/-- Follow a path. -/
def locate (tree : Tree) (path : String) : Except ReadError Place :=
  if path.toList.contains '\x00' then .error .nulInName
  else if path.isEmpty then .error .notFound
  else if 4096 ≤ (Text.Utf8.encode path.toList).length then .error .nameTooLong
  else
    let start := if path.toList.head? = some '/' then .system [] else .inside []
    (segments path).foldlM tree.follow start

/-- Read a file of the tree. -/
def read (tree : Tree) : Reader := fun path =>
  match tree.locate path with
  | .error error => .error error
  | .ok (.file octets) => .ok octets
  | .ok _ => .error .isDirectory

end Tree

end AccountPanel.Files
