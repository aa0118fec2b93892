/-!
# The stylesheet

Style rules and their written form, one rule on a line, and the rules that a page has unless a
stylesheet of its own was given.
-/

namespace AccountPanel.Stylesheet

/-- A rule: what it applies to, and the values it gives to properties. -/
structure Rule where
  selector : String
  declarations : List (String × String)
  deriving Repr, DecidableEq

/-- The line of a rule. -/
def Rule.write (rule : Rule) : String :=
  let declarations := rule.declarations.map fun (property, value) =>
    property ++ ": " ++ value ++ "; "
  rule.selector ++ " \x7b " ++ String.join declarations ++ "\x7d\n"

/-- The rules of the account page. -/
def accountRules : List Rule :=
  [⟨"body",
      [("font-family", "system-ui, sans-serif"), ("margin", "0"), ("color", "#1f2328"),
      ("background", "#f6f8fa")]⟩,
    ⟨".container", [("max-width", "960px"), ("margin", "0 auto"), ("padding", "1rem")]⟩,
    ⟨".flash",
      [("list-style", "none"), ("padding", ".5rem 1rem"), ("background", "#fff4e5"),
      ("border", "1px solid #f0c36d"), ("border-radius", "4px")]⟩,
    ⟨".row",
      [("display", "flex"), ("flex-wrap", "wrap"), ("align-items", "flex-start"),
      ("padding", "1rem"), ("background", "#fff"), ("border-radius", "6px")]⟩,
    ⟨".col-summary", [("flex", "1 1 33%"), ("min-width", "200px"), ("text-align", "center")]⟩,
    ⟨".col-tabs", [("flex", "2 1 66%"), ("min-width", "280px"), ("padding", "0 1rem")]⟩,
    ⟨".avatar", [("border-radius", "50%"), ("background", "#eaeef2")]⟩,
    ⟨".tabs",
      [("display", "flex"), ("gap", "1rem"), ("border-bottom", "1px solid #d0d7de"),
      ("margin-bottom", "1rem")]⟩,
    ⟨".tab", [("padding", ".5rem 0"), ("text-decoration", "none"), ("color", "inherit")]⟩,
    ⟨".tab.active", [("border-bottom", "2px solid #0969da"), ("color", "#0969da")]⟩,
    ⟨".user-info",
      [("display", "grid"), ("grid-template-columns", "max-content 1fr"), ("gap", ".5rem 1rem")]⟩,
    ⟨".user-info dt", [("font-weight", "600")]⟩,
    ⟨".ssh-keys", [("width", "100%"), ("border-collapse", "collapse")]⟩,
    ⟨".ssh-keys th, .ssh-keys td",
      [("text-align", "left"), ("padding", ".5rem"), ("border-bottom", "1px solid #d0d7de"),
      ("vertical-align", "top")]⟩,
    ⟨".ssh-key-value code", [("word-break", "break-all"), ("font-size", ".8rem")]⟩,
    ⟨".button",
      [("display", "inline-block"), ("padding", ".4rem .9rem"), ("border", "1px solid #d0d7de"),
      ("border-radius", "4px"), ("background", "#fff"), ("color", "inherit"),
      ("text-decoration", "none"), ("cursor", "pointer")]⟩,
    ⟨".button.primary",
      [("background", "#0969da"), ("border-color", "#0969da"), ("color", "#fff")]⟩,
    ⟨".button.danger", [("color", "#cf222e")]⟩,
    ⟨".mt-3", [("margin-top", "1rem")]⟩,
    ⟨".modal-backdrop",
      [("position", "fixed"), ("inset", "0"), ("background", "rgba(0, 0, 0, .45)"),
      ("display", "flex"), ("align-items", "center"), ("justify-content", "center")]⟩,
    ⟨".modal",
      [("background", "#fff"), ("border-radius", "6px"), ("padding", "1rem 1.5rem"),
      ("width", "min(520px, 90vw)")]⟩,
    ⟨".modal-header",
      [("display", "flex"), ("justify-content", "space-between"), ("align-items", "center")]⟩,
    ⟨".modal-close", [("font-size", "1.5rem"), ("text-decoration", "none"), ("color", "inherit")]⟩,
    ⟨".ssh-key-form", [("display", "flex"), ("flex-direction", "column"), ("gap", ".5rem")]⟩,
    ⟨".ssh-key-form input, .ssh-key-form textarea",
      [("font", "inherit"), ("padding", ".4rem"), ("border", "1px solid #d0d7de"),
      ("border-radius", "4px")]⟩,
    ⟨".field-error", [("color", "#cf222e"), ("margin", "0"), ("font-size", ".85rem")]⟩,
    ⟨".form-actions",
      [("display", "flex"), ("justify-content", "flex-end"), ("gap", ".5rem"),
      ("margin-top", ".5rem")]⟩]

/-- The stylesheet of the account page. -/
def account : String := String.join (accountRules.map Rule.write)

end AccountPanel.Stylesheet
