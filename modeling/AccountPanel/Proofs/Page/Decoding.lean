import AccountPanel.Proofs.Page.Content
import AccountPanel.Proofs.Page.Openings

/-!
# The whole page, read back

Reading the page of a panel gives everything that the page is there to tell, so two panels with one
page tell the same. What a page leaves out is not told: the keys behind the tab of the profile, the
style behind the address of the picture, or whether an empty message was a message.
-/

namespace AccountPanel.Page

open Markup Piece

variable (view : View)

/-! ## The summary -/

/-- The picture. -/
def picture : List Token :=
  [.opening "img"
    [("class", "avatar"), ("src", view.avatarUrl), ("alt", "Avatar of " ++ view.profile.username),
      ("width", "100"), ("height", "100")]]

/-- The line above the user name, and the user name. -/
def nameLines : List Token :=
  lines 6
    [[.text view.fullName], [.opening "br" []], textElement "strong" [] view.profile.username] ++
  [newline 4]

theorem summary_eq :
    summary view =
      element "div" [("class", "col col-summary")]
        (lines 4 [picture view, element "p" [("class", "user-name")] (nameLines view)] ++
          [newline 2]) := rfl

theorem nested_nameLines : Nested (nameLines view) :=
  .append
    (.line (.text _ .nil) (.line (.void (by decide) .nil)
      (.line (.textElement (by decide) _) .noLines)))
    (.newline .nil 4)

/-- Beside the picture the summary holds the names. -/
theorem elements_summary {tag : String} (container : tag ∉ voidTags) (outside : tag ∉ frameTags) :
    elements tag (pieces (summary view)) =
      elements tag (pieces (element "p" [("class", "user-name")] (nameLines view))) := by
  have reads := collects_elements container
  have notDiv : "div" ≠ tag := ne_of_mem_of_not_mem (by decide) outside
  have first : Nested (picture view) := .void (by decide) .nil
  have second : Nested (element "p" [("class", "user-name")] (nameLines view)) :=
    .element (by decide) (nested_nameLines view)
  have parts : Nested (lines 4 [_, _]) := .line first (.line second .noLines)
  have noPicture : elements tag (pieces (picture view)) = [] :=
    elements_eq_nil container first (by simp [picture])
  rw [summary_eq, elements_element_of_ne container notDiv (parts.append (.newline .nil 2)),
    reads.append_newline parts, reads.line first, noPicture, reads.line second, reads.noLines,
    List.append_nil, List.nil_append]

theorem elements_p_summary :
    elements "p" (pieces (summary view)) =
      [([("class", "user-name")], pieces (nameLines view))] := by
  rw [elements_summary view (by decide) (by decide)]
  exact elements_element_self (by decide) (nested_nameLines view) (by simp [nameLines])

theorem elements_strong_summary :
    elements "strong" (pieces (summary view)) = [([], pieces [.text view.profile.username])] := by
  have container : "strong" ∉ voidTags := by decide
  have reads := collects_elements container
  have line : Nested [.text view.fullName] := .text _ .nil
  have gap : Nested [.opening "br" []] := .void (by decide) .nil
  have name : Nested (textElement "strong" [] view.profile.username) := .textElement (by decide) _
  have parts : Nested (lines 6 [_, _, _]) := .line line (.line gap (.line name .noLines))
  rw [elements_summary view container (by decide),
    elements_element_of_ne container (by decide) (nested_nameLines view), nameLines,
    reads.append_newline parts, reads.line line, reads.line gap, reads.line name,
    elements_textElement_self container, elements_eq_nil container line (by simp),
    elements_eq_nil container gap (by simp)]
  rfl

/-- Above the summary there are messages only, so its elements are the first with their tags. -/
theorem contentOf_tokens {tag : String} {attributes : List (String × String)}
    {content : List Piece} (container : tag ∉ voidTags) (outside : tag ∉ frameTags)
    (noList : tag ≠ "ul") (noItem : tag ≠ "li")
    (found : elements tag (pieces (summary view)) = [(attributes, content)]) :
    Reading.contentOf tag (pieces (tokens view)) = content := by
  have noFlash : elements tag (pieces (flashList view.flashes)) = [] :=
    elements_eq_nil container (nested_flashList view.flashes)
      (by simp [mem_closings_flashList, noList, noItem])
  rw [Reading.contentOf, elements_tokens view container outside, noFlash, found]
  rfl

theorem username_tokens :
    Reading.textOf "strong" (pieces (tokens view)) = view.profile.username := by
  rw [Reading.textOf, contentOf_tokens view (by decide) (by decide) (by decide) (by decide)
    (elements_strong_summary view), text_pieces_text]

/-- Characters are read up to the tag behind them. -/
theorem text_takeWhile_characters (characters : List Char) (tag : String) (rest : List Piece) :
    text ((characters.map Piece.character ++ Piece.opening tag [] :: rest).takeWhile
      (· != Piece.opening tag [])) = String.ofList characters := by
  have passes : ∀ piece ∈ characters.map Piece.character,
      (piece != Piece.opening tag []) = true := by
    intro piece member
    rcases List.mem_map.mp member with ⟨character, -, rfl⟩
    rfl
  have stops : (Piece.opening tag [] :: rest).takeWhile (· != Piece.opening tag []) = [] := by
    simp
  rw [List.takeWhile_append_of_pos passes, stops, List.append_nil, text, List.filterMap_map]
  exact congrArg String.ofList (List.filterMap_some)

/-- The line break of the layout on both sides of the line above the user name. -/
def nameBreak : List Char := '\n' :: List.replicate 6 ' '

/-- The line above the user name stands between two line breaks of the layout. -/
theorem fullName_tokens : Reading.fullName (pieces (tokens view)) = view.fullName := by
  have shape : pieces (nameLines view) =
      (nameBreak ++ (view.fullName.toList ++ nameBreak)).map Piece.character ++
        Piece.opening "br" [] ::
          pieces (lines 6 [textElement "strong" [] view.profile.username] ++ [newline 4]) := by
    simp [nameLines, lines, newline, Token.pieces, nameBreak]
  have content := contentOf_tokens view (by decide) (by decide) (by decide) (by decide)
    (elements_p_summary view)
  rw [Reading.fullName, content, shape]
  simp only [text_takeWhile_characters, String.toList_ofList]
  have front : (nameBreak ++ (view.fullName.toList ++ nameBreak)).drop 7 =
      view.fullName.toList ++ nameBreak := rfl
  have back : (nameBreak.reverse ++ view.fullName.toList.reverse).drop 7 =
      view.fullName.toList.reverse := rfl
  rw [front, List.reverse_append, back, List.reverse_reverse, String.ofList_toList]

/-! ## The pane of the profile -/

/-- The terms of the profile are its four texts. -/
theorem elements_dd_profileList (profile : Profile) :
    elements "dd" (pieces (profileList profile)) =
      [([], pieces [.text profile.firstName]), ([], pieces [.text profile.lastName]),
        ([], pieces [.text profile.username]), ([], pieces [.text profile.email])] := by
  have container : "dd" ∉ voidTags := by decide
  have reads := collects_elements container
  have label : ∀ text, Nested (textElement "dt" [] text) := fun text =>
    .textElement (by decide) text
  have term : ∀ text, Nested (textElement "dd" [] text) := fun text => .textElement container text
  have pair : ∀ name text parts,
      elements "dd" (pieces
          (lines 2 (textElement "dt" [] name :: textElement "dd" [] text :: parts))) =
        ([], pieces [.text text]) :: elements "dd" (pieces (lines 2 parts)) := by
    intro name text parts
    rw [reads.line (label name), reads.line (term text),
      elements_textElement_of_ne container (by decide), elements_textElement_self container]
    rfl
  have parts : Nested (lines 2 [_, _, _, _, _, _, _, _]) :=
    .line (label "Name") (.line (term profile.firstName)
      (.line (label "Surname") (.line (term profile.lastName)
        (.line (label "Username") (.line (term profile.username)
          (.line (label "Email") (.line (term profile.email) .noLines)))))))
  rw [profileList, elements_element_of_ne container (by decide) (parts.append (.newline .nil 0)),
    reads.append_newline parts, pair, pair, pair, pair, reads.noLines]

/-- On the tab of the profile the pane is read with the texts of the profile. -/
theorem pane_tokens_info (chosen : view.activeTab = .info) :
    Reading.pane (pieces (tokens view)) =
      .info view.profile.firstName view.profile.lastName view.profile.email := by
  have container : "dd" ∉ voidTags := by decide
  have reads := collects_elements container
  have profile : Nested (lines 6 [profileList view.profile]) :=
    .line (nested_profileList view.profile) .noLines
  have terms : elements "dd" (pieces (tokens view)) =
      elements "dd" (pieces (profileList view.profile)) := by
    rw [elements_tokens_of_pane view "dd" container (by decide) (by decide),
      chosenPane_info view chosen, infoPane,
      elements_pane container (by decide) "tab-info" (profile.append (.newline .nil 4)),
      reads.append_newline profile, reads.line (nested_profileList view.profile), reads.noLines,
      List.append_nil]
  have label : Reading.chosenLabel (pieces (tokens view)) = "Info" := by
    rw [chosenLabel_tokens, chosen]
    rfl
  rw [Reading.pane, if_pos label, terms, elements_dd_profileList]
  simp only [List.map_cons, List.map_nil, text_pieces_text]
  rfl

/-! ## The page of a panel -/

variable (panel : Panel)

/-- The address of the page is the first link without its query. -/
theorem basePath_render : Reading.basePath (Markup.read panel.render) = panel.basePath := by
  have query : Urlencoded.query [("tab", Tab.info.slug)] = "tab=info" := by decide
  have link : panel.view.infoUrl.toList = panel.basePath.toList ++ "?tab=info".toList := by
    change (panel.basePath ++ "?" ++ Urlencoded.query [("tab", Tab.info.slug)]).toList = _
    rw [query, String.append_assoc, String.toList_append]
    rfl
  have length : "?tab=info".toList.length = "?tab=info".length := by decide
  rw [read_render, Reading.basePath, attributeOf_a_tokens, link]
  simp only [List.length_append, length, Nat.add_sub_cancel, List.take_left,
    String.ofList_toList]

/-- Reading the page of a panel gives what the panel has to tell. -/
theorem content_read_render : Content.read panel.render = Content.ofPanel panel := by
  have pane : Reading.pane (Markup.read panel.render) = .ofPanel panel := by
    rw [read_render, Pane.ofPanel]
    cases chosen : panel.activeTab with
    | info => exact pane_tokens_info panel.view chosen
    | keys => exact pane_tokens panel.view chosen
  have username : Reading.textOf "strong" (Markup.read panel.render) = panel.profile.username := by
    rw [read_render]
    exact username_tokens panel.view
  have fullName : Reading.fullName (Markup.read panel.render) = panel.profile.fullName := by
    rw [read_render]
    exact fullName_tokens panel.view
  have avatar : Reading.attributeOf "img" "src" (Markup.read panel.render) =
      panel.avatar.url panel.profile.username := by
    rw [read_render, attributeOf_img_tokens, Panel.view]
  have flashes := flashes_read_render panel
  rw [flashes_read] at flashes
  simp only [Content.read, Content.ofPanel, flashes, username, fullName, avatar, basePath_render,
    pane]

/-- Modals that show the same form hold the same draft and, up to no message at all, the same
messages. -/
theorem form_eq_of_shown {panel other : Panel}
    (shown : panel.modal.map ShownForm.ofModal = other.modal.map ShownForm.ofModal) :
    panel.modal.isSome = other.modal.isSome ∧
      (panel.modal.isSome →
        panel.view.form.draft = other.view.form.draft ∧
          panel.view.nameError = other.view.nameError ∧
            panel.view.textError = other.view.textError) := by
  simp only [View.nameError, View.textError, View.form, Panel.view]
  cases first : panel.modal with
  | none =>
      rw [first] at shown
      rw [Option.map_eq_none_iff.mp shown.symm]
      exact ⟨rfl, fun opened => by cases opened⟩
  | some modal =>
      rw [first] at shown
      rcases Option.map_eq_some_iff.mp shown.symm with ⟨again, second, same⟩
      simp only [ShownForm.ofModal, ShownForm.mk.injEq] at same
      rw [second]
      exact ⟨rfl, fun _ => ⟨same.1.symm, same.2.1.symm, same.2.2.symm⟩⟩

/-- Panels with one page have the same tab, messages, names, picture and address, and they agree on
what the pane of that tab shows. -/
theorem render_determines_content {panel other : Panel} (same : panel.render = other.render) :
    panel.activeTab = other.activeTab ∧ panel.flashes = other.flashes ∧
      panel.profile.username = other.profile.username ∧
      panel.profile.fullName = other.profile.fullName ∧
      panel.avatar.url panel.profile.username = other.avatar.url other.profile.username ∧
      panel.basePath = other.basePath ∧
      (panel.activeTab = .info →
        panel.profile.firstName = other.profile.firstName ∧
          panel.profile.lastName = other.profile.lastName ∧
            panel.profile.email = other.profile.email) ∧
      (panel.activeTab = .keys →
        panel.keys = other.keys ∧ panel.modal.isSome = other.modal.isSome ∧
          (panel.modal.isSome →
            panel.view.form.draft = other.view.form.draft ∧
              panel.view.nameError = other.view.nameError ∧
                panel.view.textError = other.view.textError)) := by
  have told : Content.ofPanel panel = Content.ofPanel other := by
    rw [← content_read_render panel, same, content_read_render other]
  simp only [Content.ofPanel, Content.mk.injEq] at told
  obtain ⟨flashes, username, fullName, avatarUrl, basePath, pane⟩ := told
  refine ⟨?_, flashes, username, fullName, avatarUrl, basePath, ?_, ?_⟩
  · cases first : panel.activeTab <;> cases second : other.activeTab <;>
      simp_all [Pane.ofPanel]
  · intro chosen
    cases second : other.activeTab with
    | info => simpa [Pane.ofPanel, chosen, second] using pane
    | keys => simp [Pane.ofPanel, chosen, second] at pane
  · intro chosen
    cases second : other.activeTab with
    | info => simp [Pane.ofPanel, chosen, second] at pane
    | keys =>
        simp only [Pane.ofPanel, chosen, second, Pane.keys.injEq] at pane
        exact ⟨pane.1, form_eq_of_shown pane.2⟩

/-- No list of keys and an empty one, and no message and an empty one, have one page. -/
theorem render_determines_content_of_unlisted :
    let profile : Profile := ⟨"<b>", "\"&quot;", "a&b\n      <br>", "'"⟩
    let panel : Panel :=
      { profile, listed := none, activeTab := .keys, flashes := ["</li>", ""],
        modal := some ⟨⟨"\" value=\"", "</textarea>"⟩, ⟨none, some "<p>"⟩⟩ }
    let other : Panel :=
      { profile, listed := some [], activeTab := .keys, flashes := ["</li>", ""],
        modal := some ⟨⟨"\" value=\"", "</textarea>"⟩, ⟨some "", some "<p>"⟩⟩ }
    panel ≠ other ∧ panel.render = other.render ∧ panel.keys = other.keys ∧
      panel.view.form.draft = other.view.form.draft ∧
        panel.view.nameError = other.view.nameError := by
  intro profile panel other
  have same : panel.render = other.render := rfl
  obtain ⟨-, -, -, -, -, -, -, pane⟩ := render_determines_content same
  rcases pane rfl with ⟨keys, -, form⟩
  rcases form rfl with ⟨draft, nameError, -⟩
  exact ⟨by decide, same, keys, draft, nameError⟩

end AccountPanel.Page
