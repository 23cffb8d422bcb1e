import Mathlib.Data.List.DropRight
import Workbench.Proofs.Substitution
import Workbench.Proofs.Tables
import Workbench.Window

/-! The menu button of the page that is shown, and no other, looks selected.

Nothing but the style sheets says which button is selected. The look of a selected button is put
behind the sheet of the button that is clicked, and all its copies are taken out of the sheets of
the others. It starts with a newline, which the sheets of the form do not have, so that exactly the
copies that were put there are found.
-/

set_option autoImplicit false

namespace Workbench

namespace Text

variable {new : List Char}

theorem replace_append_of_not_mem {c : Char} {front : List Char} (outside : c ∉ front)
    (rest back : List Char) :
    replace (c :: rest) new (front ++ back) = front ++ replace (c :: rest) new back := by
  induction front with
  | nil => rfl
  | cons d front ih =>
    obtain ⟨other, outside⟩ := List.ne_and_not_mem_of_not_mem_cons outside
    have misfit : ¬ (c :: rest).isPrefixOf (d :: (front ++ back)) = true := by
      simp [List.isPrefixOf, other]
    have passed : replaceFrom (c :: rest) new 0 (d :: (front ++ back)) =
        d :: replaceFrom (c :: rest) new 0 (front ++ back) := if_neg misfit
    exact passed.trans (congrArg (d :: ·) (ih outside))

theorem replace_copies {c : Char} {front : List Char} (outside : c ∉ front)
    (rest : List Char) (count : Nat) :
    replace (c :: rest) [] (front ++ (List.replicate count (c :: rest)).flatten) = front := by
  have copies : replace (c :: rest) [] (List.replicate count (c :: rest)).flatten = [] := by
    induction count with
    | zero => rfl
    | succ count ih =>
      rw [List.replicate_succ, List.flatten_cons, replace_self_append (List.cons_ne_nil c rest), ih]
      rfl
  rw [replace_append_of_not_mem outside, copies, List.append_nil]

end Text

namespace Window

/-! ## The menu of the form -/

theorem menuButtons_eq : menuButtons = ["btn_home", "btn_compiler", "btn_widgets"] := by
  decide +kernel

theorem nodup_menuButtons : menuButtons.Nodup := by
  rw [menuButtons_eq]
  decide

theorem newline_not_mem_styleSheetOf {button : String} (listed : button ∈ menuButtons) :
    '\n' ∉ (form.styleSheetOf button).toList := by
  have sheets : (menuButtons.all fun button => !(form.styleSheetOf button).toList.contains '\n') =
      true := by
    decide +kernel
  simpa using List.all_eq_true.1 sheets button listed

/-- A click on a button of the menu chooses its page and does nothing else. -/
theorem bound_start {button : String} (listed : button ∈ menuButtons) :
    start.clicks.filter (·.1 == button) = [(button, .choosePage)] ∧
      (pageOf? button).isSome = true := by
  rw [menuButtons_eq] at listed
  simp only [List.mem_cons, List.not_mem_nil, or_false] at listed
  rcases listed with rfl | rfl | rfl <;> exact ⟨rfl, rfl⟩

theorem mem_of_bound {button : String} (bound : (button, .choosePage) ∈ start.clicks) :
    button ∈ menuButtons := by
  have pages : start.clicks.filter (·.2 == .choosePage) =
    [("btn_home", .choosePage), ("btn_widgets", .choosePage), ("btn_compiler", .choosePage)] := rfl
  have listed : (button, .choosePage) ∈ start.clicks.filter (·.2 == .choosePage) :=
    List.mem_filter.2 ⟨bound, rfl⟩
  rw [pages] at listed
  rw [menuButtons_eq]
  simp only [List.mem_cons, Prod.mk.injEq, and_true, List.not_mem_nil, or_false] at listed ⊢
  tauto

/-! ## What a click does to style sheets -/

def marks (count : Nat) : String := String.join (List.replicate count ({} : Settings).selected)

theorem append_marks_zero (style : String) : style ++ marks 0 = style := String.append_empty

theorem select_marks (style : String) (count : Nat) :
    ({} : Settings).select (style ++ marks count) = style ++ marks (count + 1) := by
  rw [Settings.select, marks, marks, List.replicate_succ', String.join_append, String.join_cons,
    String.join_nil, String.append_empty, String.append_assoc]

theorem toList_selectedLook (indent colour : String) :
    ∃ rest, (selectedLook indent colour).toList = '\n' :: rest := by
  obtain ⟨rest, look⟩ : ∃ rest, selectedLook indent colour = "\n" ++ rest := by
    simp only [selectedLook, String.append_assoc]
    exact ⟨_, rfl⟩
  rw [look, String.toList_append]
  exact ⟨rest.toList, rfl⟩

/-- The sheet of the form is left, however often its button was marked. -/
theorem deselect_marks {button : String} (listed : button ∈ menuButtons) (count : Nat) :
    ({} : Settings).deselect (form.styleSheetOf button ++ marks count) =
      form.styleSheetOf button := by
  obtain ⟨rest, look⟩ : ∃ rest, ({} : Settings).selected.toList = '\n' :: rest :=
    toList_selectedLook _ _
  have sheet : (form.styleSheetOf button ++ marks count).toList =
      (form.styleSheetOf button).toList ++ (List.replicate count ('\n' :: rest)).flatten := by
    rw [String.toList_append, marks, String.toList_join, List.flatMap_def, List.map_replicate, look]
  rw [Settings.deselect, Settings.without, sheet, look,
    Text.replace_copies (newline_not_mem_styleSheetOf listed), String.ofList_toList]

theorem styleOf_restyle (window : Window) (name style key : String) :
    (window.restyle name style).styleOf key = if key = name then style else window.styleOf key := by
  simp only [restyle, setStyle, request, styleOf, Table.get?_put]
  split <;> rfl

/-- What selecting depends on and leaves as it is: the settings, and what clicks are bound to. -/
def frame (window : Window) : Settings × List (String × Action) := (window.settings, window.clicks)

theorem frame_restyle (window : Window) (name style : String) :
    (window.restyle name style).frame = window.frame := rfl

theorem frame_print (window : Window) (line : String) : (window.print line).frame = window.frame :=
  rfl

theorem frame_foldl_deselect (names : List String) (window : Window) :
    (names.foldl (fun window button => window.deselect button) window).frame = window.frame := by
  induction names generalizing window with
  | nil => rfl
  | cons name names ih => exact ih (window.deselect name)

theorem styleOf_foldl_deselect {names : List String} (distinct : names.Nodup) (window : Window)
    (key : String) :
    (names.foldl (fun window button => window.deselect button) window).styleOf key =
      if key ∈ names then window.settings.deselect (window.styleOf key)
        else window.styleOf key := by
  induction names generalizing window with
  | nil => simp
  | cons name names ih =>
    -- A sheet that was deselected does not come up again.
    obtain ⟨fresh, distinct⟩ := List.nodup_cons.1 distinct
    have first : (window.deselect name).styleOf key =
      if key = name then window.settings.deselect (window.styleOf name) else window.styleOf key :=
        styleOf_restyle ..
    have rest := ih distinct (window.deselect name)
    rw [first, show (window.deselect name).settings = window.settings from rfl] at rest
    rw [List.foldl_cons, rest]
    by_cases same : key = name
    · subst same
      simp [fresh]
    · simp [same]

theorem frame_choosePage (window : Window) (button : String) :
    (window.choosePage button).frame = window.frame := by
  unfold choosePage
  rw [frame_print]
  cases pageOf? button with
  | none => rfl
  | some page =>
    dsimp only
    rw [select, frame_restyle, deselectOthers, frame_foldl_deselect]
    rfl

theorem styleOf_choosePage (window : Window) {button key : String} (listed : button ∈ menuButtons)
    (asked : key ∈ menuButtons) : (window.choosePage button).styleOf key =
      if key = button then window.settings.select (window.styleOf key)
      else window.settings.deselect (window.styleOf key) := by
  obtain ⟨page, shown⟩ := Option.isSome_iff_exists.1 (bound_start listed).2
  let cleared := (window.showPage page).deselectOthers button
  have settings : cleared.settings = window.settings :=
    congrArg Prod.fst
      (frame_foldl_deselect (menuButtons.filter (· != button)) (window.showPage page))
  have styles (name : String) : cleared.styleOf name = if name ∈ menuButtons.filter (· != button)
      then window.settings.deselect (window.styleOf name) else window.styleOf name :=
    styleOf_foldl_deselect (nodup_menuButtons.filter _) (window.showPage page) name
  have chosen : (window.choosePage button).styleOf key =
      if key = button then cleared.settings.select (cleared.styleOf button)
        else cleared.styleOf key := by
    rw [choosePage, shown, ← styleOf_restyle]
    rfl
  rw [chosen, settings, styles, styles]
  by_cases same : key = button
  · simp [same]
  · simp [same, asked]

theorem perform_other {bindings : List (String × Action)}
    (other : ∀ binding ∈ bindings, binding.2 ≠ .choosePage) (button : String) (window : Window) :
    let after := bindings.foldl (fun window binding => window.perform button binding.2) window
    after.frame = window.frame ∧ after.styles = window.styles := by
  induction bindings generalizing window with
  | nil => exact ⟨rfl, rfl⟩
  | cons binding bindings ih =>
    obtain ⟨first, other⟩ := List.forall_mem_cons.1 other
    have kept : (window.perform button binding.2).frame = window.frame ∧
        (window.perform button binding.2).styles = window.styles := by
      cases action : binding.2 with
      | choosePage => exact absurd action first
      | maximiseOrRestore =>
        rw [perform, maximiseOrRestore]
        split <;> exact ⟨rfl, rfl⟩
      | unfoldMenu | minimise | close | openFile | saveFile | compile => exact ⟨rfl, rfl⟩
    obtain ⟨frame, styles⟩ := ih other (window.perform button binding.2)
    exact ⟨frame.trans kept.1, styles.trans kept.2⟩

/-! ## Runs of clicks -/

/-- One button of the menu is marked a number of times and the others are as in the form. -/
structure Highlighted (window : Window) (button : String) (count : Nat) : Prop where
  frame : window.frame = start.frame
  styles : ∀ key ∈ menuButtons,
    window.styleOf key = form.styleSheetOf key ++ marks (if key = button then count else 0)

theorem highlighted_start (position : Point) : Highlighted (start position) "btn_home" 1 where
  frame := rfl
  styles key asked := by
    have selected : (start position).styleOf key =
      ((ofForm position).select "btn_home").styleOf key := rfl
    rw [selected, select, styleOf_restyle]
    by_cases same : key = "btn_home"
    · rw [if_pos same, if_pos same, same, ← select_marks, append_marks_zero]
      rfl
    · rw [if_neg same, if_neg same, append_marks_zero]
      rfl

section
variable {window : Window} {button : String} {count : Nat}
    (highlighted : Highlighted window button count)
  {clicked : String}
include highlighted

theorem Highlighted.click (listed : clicked ∈ menuButtons) :
    Highlighted (window.click clicked) clicked (if clicked = button then count + 1 else 1) := by
  have settings : window.settings = {} := congrArg Prod.fst highlighted.frame
  have bound : window.clicks = start.clicks := congrArg Prod.snd highlighted.frame
  have click : window.click clicked = window.choosePage clicked := by
    rw [Window.click, bound, (bound_start listed).1]
    rfl
  rw [click]
  refine ⟨(window.frame_choosePage clicked).trans highlighted.frame, fun key asked => ?_⟩
  rw [styleOf_choosePage window listed asked, settings, highlighted.styles key asked]
  by_cases same : key = clicked
  · subst same
    rw [if_pos rfl, if_pos rfl, select_marks]
    -- A button that was not the last one has no marks left.
    by_cases again : key = button
    · rw [if_pos again, if_pos again]
    · rw [if_neg again, if_neg again]
  · rw [if_neg same, if_neg same, deselect_marks asked, append_marks_zero]

theorem Highlighted.click_elsewhere (outside : clicked ∉ menuButtons) :
    Highlighted (window.click clicked) button count := by
  have bound : window.clicks = start.clicks := congrArg Prod.snd highlighted.frame
  have other : ∀ binding ∈ window.clicks.filter (·.1 == clicked), binding.2 ≠ .choosePage := by
    rintro ⟨name, action⟩ member rfl
    obtain ⟨held, named⟩ := List.mem_filter.1 member
    rw [bound] at held
    exact outside (beq_iff_eq.1 named ▸ mem_of_bound held)
  obtain ⟨frame, styles⟩ := perform_other other clicked window
  refine ⟨frame.trans highlighted.frame, fun key asked => ?_⟩
  rw [styleOf, Window.click, styles]
  exact highlighted.styles key asked

end

def clickAll (objects : List String) (window : Window) : Window :=
  objects.foldl (fun window object => window.click object) window

def lastButton (clicks : List String) : String := clicks.getLast?.getD "btn_home"

/-- How often the last button is marked: once for each click on it since another one was clicked,
and if that never was, once more for the welcome page that the window comes up with. -/
def markCount (clicks : List String) : Nat :=
  (clicks.rtakeWhile (· == lastButton clicks)).length +
    if lastButton clicks == "btn_home" && clicks.all (· == "btn_home") then 1 else 0

theorem lastButton_concat (clicks : List String) (button : String) :
    lastButton (clicks ++ [button]) = button := by
  simp [lastButton]

theorem lastButton_eq_getLast {clicks : List String} (some_click : clicks ≠ []) :
    lastButton clicks = clicks.getLast some_click := by
  rw [lastButton, List.getLast?_eq_some_getLast some_click]
  rfl

theorem forall_lastButton (P : String → Prop) {clicks : List String} (home : P "btn_home")
    (all : ∀ button ∈ clicks, P button) : P (lastButton clicks) := by
  by_cases none : clicks = []
  · rw [none]
    exact home
  · rw [lastButton_eq_getLast none]
    exact all _ (List.getLast_mem none)

theorem markCount_concat (clicks : List String) (button : String) :
    markCount (clicks ++ [button]) = if button =
      lastButton clicks then markCount clicks + 1 else 1 := by
  rw [markCount, lastButton_concat,
    List.rtakeWhile_concat_pos (· == button) clicks button (beq_self_eq_true button),
    List.length_append, List.length_singleton, List.all_append, List.all_cons,
      List.all_nil, Bool.and_true]
  by_cases again : button = lastButton clicks
  · rw [if_pos again, markCount, ← again]
    cases button == "btn_home" <;> cases clicks.all (· == "btn_home") <;> rfl
  · have run : clicks.rtakeWhile (· == button) = [] := by
      refine List.rtakeWhile_eq_nil_iff.2 fun some_click same => again ?_
      rw [lastButton_eq_getLast some_click]
      exact (beq_iff_eq.1 same).symm
    -- If all clicks were on the button of the welcome page, it was the last one.
    have mixed :
        ¬ (button == "btn_home" && (clicks.all (· == "btn_home") && button == "btn_home")) =
          true := by
      intro whole
      simp only [Bool.and_eq_true, List.all_eq_true, beq_iff_eq] at whole
      have last : lastButton clicks = "btn_home" := forall_lastButton (· = "btn_home") rfl whole.2.1
      exact again (whole.1.trans last.symm)
    rw [if_neg again, if_neg mixed, run]
    rfl

theorem clickAll_concat (clicks : List String) (clicked : String) (window : Window) :
    window.clickAll (clicks ++ [clicked]) = (window.clickAll clicks).click clicked := by
  rw [clickAll, List.foldl_append]
  rfl

theorem highlighted_clickAll (position : Point) (clicks : List String) :
    Highlighted ((start position).clickAll clicks) (lastButton (clicks.filter menuButtons.contains))
      (markCount (clicks.filter menuButtons.contains)) := by
  -- The last click decides, so the clicks are taken from the end.
  induction clicks using List.reverseRecOn with
  | nil => exact highlighted_start position
  | append_singleton clicks clicked ih =>
    rw [clickAll_concat, List.filter_append]
    by_cases listed : clicked ∈ menuButtons
    · rw [List.filter_cons_of_pos (by simpa using listed), List.filter_nil, lastButton_concat,
        markCount_concat]
      exact ih.click listed
    · rw [List.filter_cons_of_neg (by simpa using listed), List.filter_nil, List.append_nil]
      exact ih.click_elsewhere listed

/-- Whatever was clicked since the window came up, on the menu or elsewhere, the buttons of the menu
have the style sheets of the form, all but the one clicked last. That one has the look of a selected
button behind its own, once for each click of the last run of clicks on it, and once more if it is
that of the welcome page and no other was ever clicked. -/
theorem highlight_follows_clicks (position : Point) (clicks : List String) :
    let window := (start position).clickAll clicks
    let chosen := clicks.filter menuButtons.contains
    menuButtons = ["btn_home", "btn_compiler", "btn_widgets"] ∧
      (∀ button ∈ menuButtons, button ≠ lastButton chosen → window.styleOf button =
        form.styleSheetOf button) ∧
      window.styleOf (lastButton chosen) = form.styleSheetOf (lastButton chosen) ++
        marks (markCount chosen) := by
  intro window chosen
  have highlighted : Highlighted window (lastButton chosen) (markCount chosen) :=
    highlighted_clickAll position clicks
  have listed : lastButton chosen ∈ menuButtons := by
    refine forall_lastButton (· ∈ menuButtons) ?_ fun button member => ?_
    · rw [menuButtons_eq]
      exact List.mem_cons_self
    · exact List.contains_iff_mem.1 (List.of_mem_filter member)
  refine ⟨menuButtons_eq, fun button asked other => ?_, ?_⟩
  · rw [highlighted.styles button asked, if_neg other, append_marks_zero]
  · rw [highlighted.styles _ listed, if_pos rfl]

-- The button of the welcome page is marked before it is clicked, but not once another one was.
example : markCount [] = 1 ∧ markCount ["btn_home"] = 2 ∧
    markCount ["btn_home", "btn_widgets", "btn_home"] = 1 := by
  decide

end Window

end Workbench
