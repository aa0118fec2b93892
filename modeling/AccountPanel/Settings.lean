import AccountPanel.EnvFile.Assignment
import AccountPanel.Files
import AccountPanel.Site

/-!
# Settings

What the environment says about the page. A variable whose text is blank counts as missing, and
what is missing has a default.
-/

namespace AccountPanel

/-- A base address without blanks at its ends and without slashes at its end, or the fallback if
nothing is left. -/
def cleanBaseUrl (raw fallback : String) : String :=
  let cleaned := Text.dropTrailingSlashes (Text.trim raw)
  if cleaned.isEmpty then fallback else cleaned

namespace Environment

/-- The text of a variable without the blanks at its ends, if anything is left of it. -/
def nonBlank? (environment : Environment) (name : String) : Option String :=
  ((environment.get? name).map Text.trim).filter (! ·.isEmpty)

/-- The variables that settings are read from. -/
def settingNames : List String :=
  ["AVATAR_BASE_URL", "AVATAR_STYLE", "PROFILE_FIRST_NAME", "PROFILE_LAST_NAME",
    "PROFILE_USERNAME", "PROFILE_EMAIL"]

/-- The avatar service that the environment asks for. -/
def avatarService (environment : Environment) : AvatarService :=
  let standard : AvatarService := {}
  { base := cleanBaseUrl ((environment.get? "AVATAR_BASE_URL").getD "") standard.base
    style := (environment.nonBlank? "AVATAR_STYLE").getD standard.style }

/-- The profile that the environment holds. -/
def profile (environment : Environment) : Profile where
  firstName := (environment.nonBlank? "PROFILE_FIRST_NAME").getD ""
  lastName := (environment.nonBlank? "PROFILE_LAST_NAME").getD ""
  username := (environment.nonBlank? "PROFILE_USERNAME").getD "user"
  email := (environment.nonBlank? "PROFILE_EMAIL").getD ""

/-- The site that the environment describes. -/
def site (environment : Environment) : Site where
  profile := environment.profile
  avatar := environment.avatarService

/-- Load an environment file. A file that cannot be read changes nothing. Without a name the file is
`.env` of the working directory or of the nearest directory above it that has one. The search for it
is left to the reader, which is asked for `.env` and has to give the file that was found. -/
def loadFile (environment : Environment) (read : Files.Reader) (path : Option String) :
    Environment :=
  match read (path.getD ".env") with
  | .ok octets => EnvFile.load environment octets
  | .error _ => environment

end Environment

end AccountPanel
