import AccountPanel.Markup.Token
import AccountPanel.Text.Parts

/-!
# Read markup

A page read back as pieces: tags, and the characters that its reader sees. Reading cuts the page
before every `<`, cuts each part behind its first `>`, and resolves references last, so a character
that was written as a reference never acts as markup.
-/

namespace AccountPanel.Markup

/-- A piece of a page, as its reader meets it. -/
inductive Piece where
  | doctype
  | opening (tag : String) (attributes : List (String × String))
  | closing (tag : String)
  | character (value : Char)
  deriving Repr, DecidableEq

/-- The characters that can be given by name. -/
def references : List (String × Char) :=
  [("amp", '&'), ("lt", '<'), ("gt", '>'), ("quot", '"'), ("#x27", '\''), ("times", '×')]

/-- What a token is read as. -/
def Token.pieces : Token → List Piece
  | .doctype => [.doctype]
  | .opening tag attributes => [.opening tag attributes]
  | .closing tag => [.closing tag]
  | .text content => content.toList.map .character
  | .reference name => (references.lookup name).toList.map .character

/-- Resolve the reference whose name starts `characters`. An ampersand that no known name follows
stands for itself. -/
def resolve (characters : List Char) : List Char :=
  match references.lookup (String.ofList (characters.takeWhile (· != ';'))) with
  | some value => value :: (characters.dropWhile (· != ';')).drop 1
  | none => '&' :: characters

/-- The characters that a written text or attribute value stands for. -/
def unescape (written : List Char) : List Char :=
  match Text.partsBetween '&' written with
  | [] => []
  | plain :: referring => plain ++ referring.flatMap resolve

/-- The attributes of a tag from its parts between quotation marks, a name before each value. -/
def readAttributes : List (List Char) → List (String × String)
  | named :: value :: parts =>
    (String.ofList (named.filter fun character => character != ' ' && character != '='),
      String.ofList (unescape value)) :: readAttributes parts
  | _ => []

/-- The tag between `<` and `>`. -/
def readTag (written : List Char) : Piece :=
  match written with
  | '!' :: _ => .doctype
  | '/' :: name => .closing (String.ofList name)
  | _ =>
    .opening (String.ofList (written.takeWhile (· != ' ')))
      (readAttributes (Text.partsBetween '"' (written.dropWhile (· != ' '))))

/-- The pieces of a text. -/
def readText (written : List Char) : List Piece := (unescape written).map .character

/-- The pieces of a part that starts behind `<`: a tag and the text that follows it. -/
def readSegment (written : List Char) : List Piece :=
  readTag (written.takeWhile (· != '>')) :: readText ((written.dropWhile (· != '>')).drop 1)

/-- The pieces of a page. -/
def read (page : String) : List Piece :=
  match Text.partsBetween '<' page.toList with
  | [] => []
  | leading :: segments => readText leading ++ segments.flatMap readSegment

namespace Piece

/-- The characters among pieces. -/
def text (pieces : List Piece) : String :=
  String.ofList <| pieces.filterMap fun
    | .character value => some value
    | _ => none

/-- The attributes and the content of every element with this tag. Elements of one tag are taken
not to stand inside each other. -/
def elements (tag : String) : List Piece → List (List (String × String) × List Piece)
  | [] => []
  | .opening name attributes :: pieces =>
    if name = tag then (attributes, pieces.takeWhile (· != .closing tag)) :: elements tag pieces
    else elements tag pieces
  | _ :: pieces => elements tag pieces

/-- The content of every element with this tag and class. -/
def classed (tag className : String) (pieces : List Piece) : List (List Piece) :=
  (elements tag pieces).filterMap fun (attributes, content) =>
    if attributes.lookup "class" = some className then some content else none

end Piece

end AccountPanel.Markup
