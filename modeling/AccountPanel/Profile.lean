import AccountPanel.Text.Blank

/-!
# Profiles

The person an account page is about.
-/

namespace AccountPanel

/-- The texts shown about a person. Any of them may be empty. -/
structure Profile where
  firstName : String := ""
  lastName : String := ""
  username : String := ""
  email : String := ""
  deriving Repr, DecidableEq

/-- First and last name with a space between them, without blanks at the ends. -/
def Profile.fullName (profile : Profile) : String :=
  Text.trim (profile.firstName ++ " " ++ profile.lastName)

end AccountPanel
