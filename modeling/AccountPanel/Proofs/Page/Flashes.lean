import AccountPanel.Page.Layout

/-!
# The place of the messages

A page shows its messages in one place, at the start of its main part, and nothing else on it
depends on them. So a page with messages is the page without them and one block more.
-/

namespace AccountPanel.Page

open Markup

theorem render_append (front back : List Token) :
    Markup.render (front ++ back) = Markup.render front ++ Markup.render back := by
  rw [Markup.render, Markup.render, Markup.render, List.flatMap_append, String.ofList_append]

/-- The written form of the messages above a panel. -/
def flashBlock (messages : List String) : String := Markup.render (flashList messages)

@[simp] theorem flashBlock_nil : flashBlock [] = "" := rfl

example : flashBlock ["Saved"] =
    "\n    <ul class=\"flash\">\n      \n      <li>Saved</li>\n      \n    </ul>\n    " := by
  decide

/-- The start of the main part of a page. -/
def mainStart : List Token := [.opening "main" [("class", "container")], newline 4]

/-- What a page holds above its main part. -/
def aboveMain (view : View) : List Token :=
  [.doctype, newline 0, .opening "html" [("lang", "en")], newline 0] ++ pageHead view ++
    [newline 0, .opening "body" [], newline 2]

/-- What a page holds below its messages. -/
def belowFlashes (view : View) : List Token :=
  newline 4 :: panelSection view ++
    [newline 2, .closing "main", newline 0, .closing "body", newline 0, .closing "html"]

theorem tokens_eq (view : View) :
    tokens view =
      aboveMain view ++ mainStart ++ flashList view.flashes ++ belowFlashes view := by
  simp [tokens, pageBody, pageMain, aboveMain, mainStart, belowFlashes, lines, element]

theorem render_eq (panel : Panel) :
    panel.render =
      Markup.render (aboveMain panel.view) ++ "<main class=\"container\">\n    " ++
        flashBlock panel.flashes ++ Markup.render (belowFlashes panel.view) := by
  have start : Markup.render mainStart = "<main class=\"container\">\n    " := by decide
  rw [Panel.render, tokens_eq, render_append, render_append, render_append, start]
  rfl

/-- Messages are written at the start of the main part, and the page around them is the same as
without them. -/
theorem exists_around_flashBlock {panel : Panel} (silent : panel.flashes = []) :
    ∃ above below,
      panel.render = above ++ "<main class=\"container\">\n    " ++ below ∧
      ∀ messages,
        ({ panel with flashes := messages } : Panel).render =
          above ++ "<main class=\"container\">\n    " ++ flashBlock messages ++ below := by
  refine ⟨Markup.render (aboveMain panel.view), Markup.render (belowFlashes panel.view), ?_, ?_⟩
  · rw [render_eq, silent, flashBlock_nil, String.append_empty]
  · intro messages
    exact render_eq { panel with flashes := messages }

end AccountPanel.Page
