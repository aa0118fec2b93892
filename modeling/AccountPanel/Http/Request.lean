import AccountPanel.Urlencoded

/-!
# Requests

What a client asks for. A target may name a scheme and a host; what follows them splits into a path
and a query at its first question mark. A part behind a number sign belongs to neither.
-/

namespace AccountPanel.Http

/-- A request. The method is compared letter by letter, so `get` is not `GET`. -/
structure Request where
  method : String
  target : String
  contentType : Option String := none
  body : List UInt8 := []
  deriving Repr, DecidableEq

namespace Request

/-- May a scheme hold this character? -/
def isSchemeCharacter (character : Char) : Bool :=
  character.isAlphanum || character == '+' || character == '-' || character == '.'

/-- A target without its scheme and its host, if it names them. -/
def withoutHost (target : List Char) : List Char :=
  match target.dropWhile isSchemeCharacter with
  | ':' :: '/' :: '/' :: rest => rest.dropWhile fun character =>
    character != '/' && character != '?'
  | _ => target

/-- The path and the query of the target. -/
def location (request : Request) : List Char :=
  withoutHost (request.target.toList.takeWhile (· != '#'))

/-- The path of the target. An empty path is the root. -/
def path (request : Request) : String :=
  let path := request.location.takeWhile (· != '?')
  if path.isEmpty then "/" else String.ofList path

/-- The query of the target, empty if there is none. -/
def query (request : Request) : List Char :=
  (request.location.dropWhile (· != '?')).drop 1

/-- The fields of the query. -/
def queryFields (request : Request) : List Urlencoded.Field :=
  Urlencoded.decode (Text.Utf8.encode request.query)

/-- Does the request ask for the head of an answer alone? -/
def isHead (request : Request) : Bool := request.method == "HEAD"

end Request

end AccountPanel.Http
