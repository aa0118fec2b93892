/-!
# Written markup

A page is a list of tokens and is written token by token. Texts and attribute values are escaped
when they are written and nowhere else, so no text can end the place it stands in.
-/

namespace AccountPanel.Markup

/-- A piece of a page. -/
inductive Token where
  /-- The declaration at the start of a page. -/
  | doctype
  /-- The start of an element with its attributes in order. -/
  | opening (tag : String) (attributes : List (String × String))
  /-- The end of an element. -/
  | closing (tag : String)
  /-- A text, as its reader sees it. -/
  | text (content : String)
  /-- A character given by name. -/
  | reference (name : String)
  deriving Repr, DecidableEq

/-- The written form of one character of a text or an attribute value. -/
def escapeChar (character : Char) : List Char :=
  match character with
  | '&' => "&amp;".toList
  | '<' => "&lt;".toList
  | '>' => "&gt;".toList
  | '"' => "&quot;".toList
  | '\'' => "&#x27;".toList
  | _ => [character]

/-- The written form of a text or an attribute value. -/
def escape (text : String) : List Char := text.toList.flatMap escapeChar

/-- The written form of an attribute, with the space before it. -/
def writeAttribute (named : String × String) : List Char :=
  ' ' :: named.1.toList ++ "=\"".toList ++ escape named.2 ++ ['"']

/-- The written form of a token. -/
def Token.write : Token → List Char
  | .doctype => "<!DOCTYPE html>".toList
  | .opening tag attributes => '<' :: tag.toList ++ attributes.flatMap writeAttribute ++ ['>']
  | .closing tag => "</".toList ++ tag.toList ++ ['>']
  | .text content => escape content
  | .reference name => '&' :: name.toList ++ [';']

/-- The written form of a page. -/
def render (tokens : List Token) : String := String.ofList (tokens.flatMap Token.write)

/-- An element that holds `content`. -/
def element (tag : String) (attributes : List (String × String)) (content : List Token) :
    List Token :=
  .opening tag attributes :: content ++ [.closing tag]

/-- An element that holds one text. -/
def textElement (tag : String) (attributes : List (String × String)) (text : String) :
    List Token :=
  element tag attributes [.text text]

/-- A line break and the spaces before the next line. -/
def newline (spaces : Nat) : Token := .text (String.ofList ('\n' :: List.replicate spaces ' '))

/-- Each part on a line of its own behind `spaces` spaces. -/
def lines (spaces : Nat) (parts : List (List Token)) : List Token :=
  parts.flatMap (newline spaces :: ·)

end AccountPanel.Markup
