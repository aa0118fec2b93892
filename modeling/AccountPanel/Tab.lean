import AccountPanel.Text.Blank

/-!
# Tabs

The two tabs of an account page and their names in links.
-/

namespace AccountPanel

/-- A tab of the page. -/
inductive Tab where
  | info
  | keys
  deriving Repr, DecidableEq

namespace Tab

/-- The name of a tab in a link. -/
def slug : Tab → String
  | .info => "info"
  | .keys => "ssh-keys"

/-- The tab that a link asks for. Blanks around the name do not matter; an unknown name and no
name at all ask for the first tab. -/
def ofSlug (slug : Option String) : Tab :=
  if slug.map Text.trim = some Tab.keys.slug then .keys else .info

end Tab

end AccountPanel
