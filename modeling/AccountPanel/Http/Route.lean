import AccountPanel.Http.Response
import AccountPanel.Http.Request

/-!
# Routes

The paths that are served, compared letter by letter, and the methods that each is served for.
-/

namespace AccountPanel.Http

/-- A path that is served. -/
inductive Route where
  | root
  | account
  | stylesheet
  | addKey
  | deleteKey
  deriving Repr, DecidableEq

namespace Route

/-- The path of a route. -/
def path : Route → String
  | .root => "/"
  | .account => "/account"
  | .stylesheet => "/static/styles.css"
  | .addKey => "/account/ssh-keys"
  | .deleteKey => "/account/ssh-keys/delete"

/-- All routes. -/
def all : List Route := [.root, .account, .stylesheet, .addKey, .deleteKey]

/-- The route with this path. -/
def ofPath? (path : String) : Option Route := all.find? (·.path == path)

/-- The methods that a route is served for. -/
def methods : Route → List String
  | .root | .account | .stylesheet => ["GET", "HEAD"]
  | .addKey | .deleteKey => ["POST"]

/-- The answer to a method that a route is not served for. -/
def refuseMethod (route : Route) : Answer :=
  .methodNotAllowed (String.intercalate "," route.methods)
    (if route = .stylesheet then [caching] else [])

end Route

end AccountPanel.Http
