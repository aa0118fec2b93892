import AccountPanel.Percent
import AccountPanel.Text.Blank

/-!
# Avatar pictures

An avatar service draws a picture for a seed text in a style. This module joins paths onto base
addresses and builds the address of a picture.
-/

namespace AccountPanel

/-- Join a path onto a base address with one slash between them. A path of slashes alone leaves
the base as it is. -/
def joinUrl (base path : String) : String :=
  let relative := Text.dropLeadingSlashes path
  if relative.isEmpty then base
  else Text.dropTrailingSlashes base ++ "/" ++ relative

/-- Where avatar pictures come from, and the style they are drawn in. -/
structure AvatarService where
  base : String := "https://avatars.dicebear.com/api"
  style : String := "bottts"
  deriving Repr, DecidableEq

namespace AvatarService

/-- The service's path of the picture for `seed`. -/
def path (service : AvatarService) (seed : String) : String :=
  "/" ++ Percent.encode (Text.trim service.style) ++ "/" ++ Percent.encode seed ++ ".svg"

/-- The address of the picture for `seed`. -/
def url (service : AvatarService) (seed : String) : String :=
  joinUrl (Text.dropTrailingSlashes service.base) (service.path seed)

end AvatarService

end AccountPanel
