/-
  VisualNovel.Proofs.Scene.Screen

  A play on a terminal and its screen. The terminal keeps a scene and choices of
  its own, which the play changes only by what it shows. `Stands` says that both
  are those that the path of a session leaves (`Screen.after`): the start screen
  before it, the game-over screen at an ending, and otherwise the prompts with
  the choices of the latest passage shown, as a menu shows nothing. Since a
  terminal refuses nothing, every decision that the screen offers is taken.
-/

import VisualNovel.Proofs.Session.History
import VisualNovel.Proofs.Stage.Terminal

namespace VisualNovel

open Time (Instant)

/-! ## What is shown of a passage -/

/-- Whether a passage is shown with its links: it is neither an ending nor a menu. -/
def Passage.isShown (p : Passage) : Bool :=
  p.outcome.all fun o => o.category == .path

theorem Passage.isEnding_eq_false_of_isShown {p : Passage} (h : p.isShown = true) :
    p.isEnding = false := by
  rw [isShown] at h
  rw [isEnding]
  cases ho : p.outcome with
  | none => rfl
  | some o =>
    have hcat : o.category = .path := by simpa [ho] using h
    simp [Outcome.isEnding, hcat]

/-- Whether a passage is a menu. -/
def Passage.isMenu (p : Passage) : Bool :=
  p.outcome.any fun o => o.category == .menu

/-- A menu is what is neither an ending nor shown. -/
theorem Passage.isMenu_iff {p : Passage} :
    p.isMenu = true ↔ p.isEnding = false ∧ p.isShown = false := by
  rw [isMenu, isEnding, isShown]
  cases p.outcome with
  | none => simp
  | some o => cases hcat : o.category <;> simp [Outcome.isEnding, hcat]

namespace Scenario

theorem stepOf_of_isShown {sc : Scenario} {p : Passage} (h : p.isShown = true) :
    sc.stepOf p = .frame (sc.frame p) := by
  rw [Passage.isShown] at h
  rw [stepOf]
  cases ho : p.outcome with
  | none => rfl
  | some o =>
    have hcat : o.category = .path := by simpa [ho] using h
    simp only [hcat]

/-- What is neither an ending nor shown is a menu. -/
theorem stepOf_of_not_isShown {sc : Scenario} {p : Passage} (hend : p.isEnding = false)
    (h : p.isShown = false) : sc.stepOf p = .menu := by
  rw [Passage.isShown] at h
  rw [Passage.isEnding] at hend
  rw [stepOf]
  cases ho : p.outcome with
  | none => simp [ho] at h
  | some o =>
    cases hcat : o.category with
    | ending => simp [ho, Outcome.isEnding, hcat] at hend
    | path => simp [ho, hcat] at h
    | menu => simp only [hcat]

end Scenario

/-! ## Screens -/

/-- The part of a screen that a reader acts on. -/
structure Screen where
  scene : SceneId
  choices : List ChoiceItem
  deriving DecidableEq, Repr

/-- The screen that a path leaves, latest passage first; a menu leaves the choices before it. -/
def Screen.after : List Passage → Screen
  | [] => ⟨.splash, []⟩
  | p :: ps =>
    if p.isEnding then ⟨.gameOver, []⟩
    else if p.isShown then ⟨.prompts, p.links.map Link.choice⟩
    else ⟨.prompts, (after ps).choices⟩

namespace Screen

theorem after_of_ending {p : Passage} (h : p.isEnding = true) (ps : List Passage) :
    after (p :: ps) = ⟨.gameOver, []⟩ := by
  rw [after, if_pos h]

theorem after_of_isShown {p : Passage} (h : p.isShown = true) (ps : List Passage) :
    after (p :: ps) = ⟨.prompts, p.links.map Link.choice⟩ := by
  rw [after, if_neg (by simp [Passage.isEnding_eq_false_of_isShown h]), if_pos h]

theorem after_of_menu {p : Passage} (hend : p.isEnding = false) (h : p.isShown = false)
    (ps : List Passage) : after (p :: ps) = ⟨.prompts, (after ps).choices⟩ := by
  rw [after, if_neg (by simp [hend]), if_neg (by simp [h])]

/-- Only an ending leads out of the prompts. -/
theorem scene_of_not_ending {p : Passage} (h : p.isEnding = false) (ps : List Passage) :
    (after (p :: ps)).scene = .prompts := by
  rw [after, if_neg (by simp [h])]
  split <;> rfl

/-- A choice on screen is a link of a passage of the path that was shown. -/
theorem exists_link_of_mem_choices {item : ChoiceItem} {ps : List Passage}
    (h : item ∈ (after ps).choices) : ∃ p ∈ ps, p.isShown = true ∧ ∃ l ∈ p.links, l.choice = item := by
  induction ps with
  | nil => cases h
  | cons p ps ih =>
    cases hend : p.isEnding with
    | true =>
      rw [after_of_ending hend] at h
      cases h
    | false =>
      cases hshown : p.isShown with
      | true =>
        rw [after_of_isShown hshown] at h
        exact ⟨p, List.mem_cons_self, hshown, List.mem_map.1 h⟩
      | false =>
        rw [after_of_menu hend hshown] at h
        obtain ⟨q, hq, hlink⟩ := ih h
        exact ⟨q, List.mem_cons_of_mem p hq, hlink⟩

/-- In the prompts the latest passage is no ending. -/
theorem exists_cons_of_scene_eq_prompts {ps : List Passage} (h : (after ps).scene = .prompts) :
    ∃ p rest, ps = p :: rest ∧ p.isEnding = false := by
  cases ps with
  | nil => cases h
  | cons p ps =>
    cases hend : p.isEnding with
    | false => exact ⟨p, ps, rfl, hend⟩
    | true =>
      rw [after_of_ending hend] at h
      cases h

/-- Outside the prompts there is nothing to choose from. -/
theorem choices_eq_nil {ps : List Passage} (h : (after ps).scene ≠ .prompts) : (after ps).choices = [] := by
  cases ps with
  | nil => rfl
  | cons p ps =>
    cases hend : p.isEnding with
    | true => rw [after_of_ending hend]
    | false => exact absurd (scene_of_not_ending hend ps) h

end Screen

/-- A terminal shows the scene and the choices of a screen. -/
structure Terminal.Shows (t : Terminal) (screen : Screen) : Prop where
  scene : t.scene = some screen.scene
  choices : t.choices = screen.choices

/-! ## Moves on a terminal -/

namespace Controller

variable {τ : Type}

theorem perform_terminal (c : Controller Terminal τ) (x : Transition) :
    c.perform x = (.ok (), { c with presenter := (c.presenter.perform x).2 }) := by
  rw [perform, Terminal.perform_eq_ok]
  rfl

theorem leave_terminal {c : Controller Terminal τ} {scene : Scene} (h : c.active = some scene) :
    c.leave = (.ok (), { c with
      active := none
      presenter := ((scene.farewell.foldl Presenter.display c.presenter).perform (.exit scene.id)).2 }) := by
  rw [leave_of_active h, displayAll_eq, perform_terminal]

theorem enterScene_terminal (c : Controller Terminal τ) (ds : List Display) (scene : Scene) :
    c.enterScene ds scene = (.ok (), { c with
      active := some scene
      presenter := ((ds.foldl Presenter.display c.presenter).perform (.enter scene.id)).2 }) := by
  rw [enterScene, displayAll_eq, perform_terminal]
  rfl

/-! ## Standing where a session is -/

/-- A play on a terminal stands at the end of a path, with the session and the ledger it has there. -/
structure Stands (sc : Scenario) (s : Session) (l : Ledger) (path : List Passage)
    (c : Controller Terminal τ) : Prop where
  scenario : c.scenario = sc
  ledger : c.ledger = l
  shows : c.presenter.Shows (Screen.after path)
  active : c.activeScene = some (Screen.after path).scene
  session : ∀ s', c.active = some (.prompts s') → s' = s

section Playing

variable [LedgerStore τ] {sc : Scenario} {s : Session} {l : Ledger} {path : List Passage}
  {c : Controller Terminal τ}

/-- In the prompts the arrival at a passage is presented, and the play stands one passage further. -/
theorem present_terminal (hsc : c.scenario = sc)
    (hshows : c.presenter.Shows ⟨.prompts, (Screen.after path).choices⟩) (p : Passage) (now : Instant) :
    (c.present (s.arrive sc l p now)).Ensures
      (fun d c' => d ≠ .ignored ∧
        c'.Stands sc (s.arrive sc l p now).session (s.arrive sc l p now).ledger (p :: path))
      (fun _ _ => False) := by
  cases hend : p.isEnding with
  | true =>
    -- The prompts are left, which clears their choices, and the ending's screen is entered.
    obtain ⟨o, ho, hcat⟩ := Passage.isEnding_eq_true_iff.1 hend
    rw [Session.arrive_of_ending ho hcat, present_of_ending rfl, persist, leave_terminal rfl,
      Reply.andThen_ok, enterGameOver_eq, enterScene_terminal, Reply.andThen_ok]
    refine ⟨by nofun, hsc, rfl, ?_, ?_, by nofun⟩
    · rw [Screen.after_of_ending hend]
      exact ⟨rfl, Terminal.choices_perform _ _⟩
    · rw [Screen.after_of_ending hend]
      rfl
  | false =>
    rw [Session.arrive_of_not_ending hend, present_of_staying (Scenario.stepOf_ne_ending hend),
      displayAll_eq]
    have hscene := Screen.scene_of_not_ending hend path
    refine ⟨by nofun, hsc, rfl, ⟨?_, ?_⟩, ?_, ?_⟩
    · rw [hscene, Terminal.scene_foldl_display]
      exact hshows.scene
    · cases hshown : p.isShown with
      | true =>
        rw [Screen.after_of_isShown hshown, Scenario.stepOf_of_isShown hshown]
        exact Terminal.choices_frame _ _
      | false =>
        -- Nothing is shown of a menu.
        rw [Screen.after_of_menu hend hshown, Scenario.stepOf_of_not_isShown hend hshown]
        exact hshows.choices
    · rw [hscene]
      rfl
    · intro s' hs'
      cases hs'
      rfl

/-- From another scene without choices on screen the prompts are entered with a new session. -/
theorem switchTo_prompts_terminal {scene : Scene} (hsc : c.scenario = sc) (hactive : c.active = some scene)
    (hscene : ∀ s, scene ≠ .prompts s) (hchoices : c.presenter.choices = []) (v : StartVariant)
    (now : Instant) :
    (c.switchTo (.prompts v) now).Ensures
      (fun _ c' => c'.Stands sc (Session.begin sc v c.ledger now).session
        (Session.begin sc v c.ledger now).ledger [sc.story.startPassage v])
      (fun _ _ => False) := by
  have hid : c.activeScene ≠ some (SceneTarget.prompts v).id := by
    rw [activeScene, hactive]
    cases scene with
    | prompts s => exact absurd rfl (hscene s)
    | splash => nofun
    | gameOver e => nofun
  have hfarewell : scene.farewell = [] := by
    cases scene with
    | prompts s => exact absurd rfl (hscene s)
    | splash => rfl
    | gameOver e => rfl
  have hleave : c.leave.Ensures
      (fun _ c' => c'.scenario = sc ∧ c'.ledger = c.ledger ∧ c'.presenter.choices = [])
      (fun _ _ => False) := by
    rw [leave_terminal hactive]
    refine ⟨hsc, rfl, ?_⟩
    rw [Terminal.choices_perform, hfarewell]
    exact hchoices
  rw [switchTo, if_neg hid]
  apply hleave.andThen
  rintro _ left ⟨hsc, hledger, hchoices⟩
  have henter : (left.perform (.enter .prompts)).Ensures
      (fun _ c' => c'.scenario = sc ∧ c'.ledger = c.ledger ∧
        c'.presenter.Shows ⟨.prompts, (Screen.after []).choices⟩)
      (fun _ _ => False) := by
    rw [perform_terminal]
    exact ⟨hsc, hledger, rfl, hchoices⟩
  rw [enter, enterPrompts]
  apply henter.andThen
  rintro _ entered ⟨hsc, hledger, hshows⟩
  rw [hsc, hledger, Session.begin_eq]
  apply (present_terminal hsc hshows (sc.story.startPassage v) now).andThen
  intro _ presented h
  exact h.2

end Playing

end Controller

end VisualNovel
