/-
  VisualNovel.Proofs.Stage.Terminal

  What a terminal has on screen and what a typed line can mean there. Showing
  something keeps the scene, and only choices change the choices. A line is
  understood as a decision exactly when the screen offers that decision
  (`offers_of_choice`, `exists_line_of_offers`).
-/

import VisualNovel.Proofs.Scene.Operations
import VisualNovel.Proofs.Text.Numeral
import VisualNovel.Stage.Terminal

namespace VisualNovel

open Text.Numeral (digits)

namespace Terminal

variable {t : Terminal}

/-! ## What is on screen -/

@[simp] theorem scene_display (t : Terminal) (d : Display) : (t.display d).scene = t.scene := by
  cases d <;> rfl

theorem scene_foldl_display (t : Terminal) (ds : List Display) :
    (ds.foldl Presenter.display t).scene = t.scene := by
  induction ds generalizing t with
  | nil => rfl
  | cons d ds ih =>
    rw [List.foldl_cons, ih]
    exact scene_display t d

/-- A terminal acknowledges every transition. -/
theorem perform_eq_ok (t : Terminal) (x : Transition) :
    Presenter.perform t x = (.ok (), (t.perform x).2) :=
  Prod.ext (perform_fst t x) rfl

@[simp] theorem choices_perform (t : Terminal) (x : Transition) : (t.perform x).2.choices = t.choices := by
  cases x with
  | prepare => rfl
  | enter id => rfl
  | exit id =>
    rw [perform]
    split <;> rfl

/-- A frame leaves its own choices on screen. -/
theorem choices_frame (t : Terminal) (f : Frame) :
    (f.displays.foldl Presenter.display t).choices = f.choices := rfl

/-! ## What a line means -/

/-- What the screen offers to decide: what its scene is for, and in the story the choices shown. -/
def Offers (t : Terminal) : UserChoice → Prop
  | .start _ => t.scene = some .splash
  | .passage id => t.scene = some .prompts ∧ ∃ item ∈ t.choices, item.targetId = id
  | .restart => t.scene = some .gameOver

theorem exists_mem_of_choiceTarget? {line : List Char} {id : PassageId}
    (h : t.choiceTarget? line = some id) : ∃ item ∈ t.choices, item.targetId = id := by
  obtain ⟨n, -, h⟩ := Option.bind_eq_some_iff.1 h
  split at h
  · cases h
  · obtain ⟨item, hitem, rfl⟩ := Option.map_eq_some_iff.1 h
    exact ⟨item, List.mem_of_getElem? hitem, rfl⟩

theorem offers_of_command {line : List Char} {choice : UserChoice}
    (h : (t.interpretCommand line).1 = .choice choice) :
    (t.interpretCommand line).2 = t ∧ t.Offers choice := by
  revert h
  fun_cases interpretCommand t line
  case case1 => nofun
  case case2 _ hscene v _ =>
    intro h
    cases h
    exact ⟨rfl, hscene⟩
  case case3 => nofun
  case case4 hscene id hid =>
    intro h
    cases h
    exact ⟨rfl, hscene, exists_mem_of_choiceTarget? hid⟩
  case case5 => nofun
  case case6 _ hscene _ =>
    intro h
    cases h
    exact ⟨rfl, hscene⟩
  case case7 => nofun

/-- A line that is understood as a decision leaves the screen as it was, and is offered by it. -/
theorem offers_of_choice {line : String} {choice : UserChoice}
    (h : (t.interpret line).1 = .choice choice) : (t.interpret line).2 = t ∧ t.Offers choice := by
  revert h
  fun_cases interpret t line
  case case1 => nofun
  case case2 => nofun
  case case3 => exact offers_of_command

/-- A line prints at most a hint. -/
theorem exists_print_of_interpret (t : Terminal) (line : String) :
    ∃ lines, (t.interpret line).2 = t.print lines := by
  have hnothing : t = t.print [] := by simp [print]
  fun_cases interpret t line
  case case1 => exact ⟨[], hnothing⟩
  case case2 => exact ⟨[], hnothing⟩
  case case3 trimmed _ _ _ =>
    fun_cases interpretCommand t trimmed
    case case3 => exact ⟨_, rfl⟩
    case case5 => exact ⟨_, rfl⟩
    case case7 => exact ⟨_, rfl⟩
    all_goals exact ⟨[], hnothing⟩

/-- The number of a choice on screen is understood as that choice. -/
theorem choiceTarget?_digits {i : Nat} {item : ChoiceItem} (hi : t.choices[i]? = some item)
    (hlt : t.choices.length < UInt64.size) : t.choiceTarget? (digits (i + 1)) = some item.targetId := by
  have hlen : i < t.choices.length := (List.getElem?_eq_some_iff.1 hi).1
  rw [choiceTarget?, Text.Numeral.read?_digits (by omega)]
  simp [hi]

/-- A number is trimmed to itself, and no command is spelled with digits. -/
theorem interpret_digits (t : Terminal) (n : Nat) :
    t.interpret (.ofList (digits n)) = t.interpretCommand (digits n) := by
  have hcommand : ∀ cs : List Char, 'q' ∈ cs → digits n ≠ cs := by
    intro cs hcs hdigits
    rw [← hdigits] at hcs
    have := Text.Numeral.isDigit_of_mem_digits hcs
    revert this
    decide
  have hquits : ¬ (digits n = ['q'] ∨ digits n = "quit".toList) := by
    rintro (h | h)
    · exact hcommand _ (by simp) h
    · exact hcommand _ (by simp) h
  simp only [interpret, String.toList_ofList, Text.Numeral.trim_digits, Text.Numeral.foldCase_digits,
    Text.Numeral.digits_ne_nil, hquits, if_false]

/-- Whatever the screen offers has a line that is understood as it. -/
theorem exists_line_of_offers {choice : UserChoice} (h : t.Offers choice)
    (hlt : t.choices.length < UInt64.size) : ∃ line, t.interpret line = (.choice choice, t) := by
  cases choice with
  | start v =>
    have hscene : t.scene = some .splash := h
    cases v with
    | default =>
      have hline : t.interpret "s" = t.interpretCommand ['s'] := rfl
      refine ⟨"s", ?_⟩
      rw [hline, interpretCommand, hscene]
      rfl
    | alt =>
      have hline : t.interpret "a" = t.interpretCommand ['a'] := rfl
      refine ⟨"a", ?_⟩
      rw [hline, interpretCommand, hscene]
      rfl
  | restart =>
    have hscene : t.scene = some .gameOver := h
    have hline : t.interpret "r" = t.interpretCommand ['r'] := rfl
    refine ⟨"r", ?_⟩
    rw [hline, interpretCommand, hscene]
    rfl
  | passage id =>
    obtain ⟨hscene, item, hitem, rfl⟩ := h
    obtain ⟨i, hi⟩ := List.mem_iff_getElem?.1 hitem
    refine ⟨.ofList (digits (i + 1)), ?_⟩
    simp only [interpret_digits, interpretCommand, hscene, choiceTarget?_digits hi hlt]

end Terminal

end VisualNovel
