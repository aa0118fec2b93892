import AccountPanel.Text.Blank
import AccountPanel.Text.Utf8

/-!
# The lines of an environment file

An environment file is read in logical lines. A physical line that ends inside quotes goes on with
the next one; a number sign behind one blank begins a comment, unless it is quoted. A line that is
not valid UTF-8, and quotes that are still open at the end of the file, are faults.
-/

namespace AccountPanel.EnvFile

/-- What has been seen of a logical line. -/
inductive Quoting where
  /-- Nothing is open: the line may end here. -/
  | complete
  /-- Behind a blank: a comment may begin here. -/
  | blank
  /-- Behind a backslash outside quotes. -/
  | escape
  /-- Inside double quotes. -/
  | weak
  | weakEscape
  /-- Inside single quotes. -/
  | strong
  | strongEscape
  deriving Repr, DecidableEq

namespace Quoting

/-- Outside quotes: what a character opens. -/
def opened : Char → Quoting
  | '\\' => .escape
  | '"' => .weak
  | '\'' => .strong
  | _ => .complete

/-- The state behind one more character. -/
def step (quoting : Quoting) (character : Char) : Quoting :=
  match quoting with
  | .complete =>
    if Text.isBlank character && character != '\n' && character != '\r' then .blank
    else opened character
  | .blank => opened character
  | .escape => .complete
  | .weak =>
    if character = '\\' then .weakEscape else if character = '"' then .complete else .weak
  | .weakEscape => .weak
  | .strong =>
    if character = '\\' then .strongEscape else if character = '\'' then .complete else .strong
  | .strongEscape => .strong

end Quoting

/-- How a physical line leaves the logical line that it belongs to. -/
inductive Ending where
  /-- The state at the end of the physical line. -/
  | state (quoting : Quoting)
  /-- The characters before a comment. -/
  | comment (before : List Char)
  deriving Repr, DecidableEq

/-- Look through the rest of a physical line behind the characters in `seen`, the last one
first. -/
def scan (quoting : Quoting) (seen : List Char) : List Char → Ending
  | [] => .state quoting
  | character :: rest =>
    if quoting = .blank ∧ character = '#' then .comment seen.reverse
    else scan (quoting.step character) (character :: seen) rest

/-- A line without its line break. -/
def dropLineBreak (line : List Char) : List Char :=
  match line.reverse with
  | '\n' :: '\r' :: rest => rest.reverse
  | '\n' :: rest => rest.reverse
  | _ => line

/-- Does a line hold nothing but a comment? -/
def isComment (line : List Char) : Bool := (line.dropWhile Text.isBlank).head? == some '#'

/-- The logical lines from the physical ones, which keep their line breaks. `pending` is what has
been read of a logical line that goes on. A fault is shown as `none` and is the last line. -/
def logicalLines (quoting : Quoting) (pending : List Char) :
    List (Option (List Char)) → List (Option (List Char))
  | [] => if quoting = .complete then [] else [none]
  | none :: _ => [none]
  | some line :: lines =>
    let whole := pending ++ line
    if isComment whole then some [] :: logicalLines .complete [] lines
    else
      match scan quoting [] line with
      | .comment before => some (pending ++ before) :: logicalLines .complete [] lines
      | .state .complete => some (dropLineBreak whole) :: logicalLines .complete [] lines
      | .state unfinished => logicalLines unfinished whole lines

/-- The physical lines of a file with their line breaks. -/
def physicalLines (octets : List UInt8) : List (List UInt8) :=
  octets.foldr
    (fun octet lines =>
      if octet == 0x0A then [octet] :: lines
      else match lines with
        | [] => [[octet]]
        | line :: others => (octet :: line) :: others)
    []

/-- The octets of a file without the mark that may stand at its start. -/
def dropByteOrderMark : List UInt8 → List UInt8
  | 0xEF :: 0xBB :: 0xBF :: octets => octets
  | octets => octets

/-- The logical lines of a file. -/
def lines (octets : List UInt8) : List (Option (List Char)) :=
  logicalLines .complete [] ((physicalLines (dropByteOrderMark octets)).map Text.Utf8.decode?)

end AccountPanel.EnvFile
