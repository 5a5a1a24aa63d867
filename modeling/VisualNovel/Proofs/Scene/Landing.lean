/-
  VisualNovel.Proofs.Scene.Landing

  Where one gets by going to a scene. It is a loop: the active scene is left and the next
  one entered, and so on for as long as an entry calls for another scene. Only the prompts
  call for one, the screen of the ending that a start is, and that screen calls for none.
  So the loop is over after two rounds, with the answer of `switchTo` (`repeat_advance`),
  and two scenes are entered at most (`presenter_switchTo`), whatever is refused. If
  nothing is, the play is where it should be (`Lands`).
-/

import VisualNovel.Proofs.Scene.Trace

namespace VisualNovel

open Presenter (Acknowledges)
open Time (Instant)

variable {σ τ : Type}

/-! ## The loop -/

namespace Controller

variable [Presenter σ] [LedgerStore τ]

/-- Takes in what a session arrived at; an ending calls for its screen. -/
def takeIn (c : Controller σ τ) (a : Arrival) : Option SceneTarget × Controller σ τ :=
  let c := { c with ledger := a.ledger, active := some (.prompts a.session) }
  match a.step with
  | .frame f => (none, c.displayAll f.displays)
  | .menu => (none, c)
  | .ending e => (some (.gameOver e), c.persist)

/-- Enters a scene and goes no further. The answer is the scene that the entry calls for, if it does. -/
def enterOnly (c : Controller σ τ) (target : SceneTarget) (now : Instant) : Reply σ τ (Option SceneTarget) :=
  match target with
  | .splash => c.enterSplash.andThen fun _ c => (.ok none, c)
  | .gameOver e => (c.enterGameOver e).andThen fun _ c => (.ok none, c)
  | .prompts v =>
    (c.perform (.enter .prompts)).andThen fun _ c =>
      let (next, c) := c.takeIn (Session.begin c.scenario v c.ledger now)
      (.ok next, c)

end Controller

/-- How far one has come on the way to a scene. -/
inductive Course (σ τ : Type)
  /-- There is a scene to go to. -/
  | toward (target : SceneTarget) (c : Controller σ τ)
  | ended (answer : Reply σ τ Unit)

namespace Course

/-- What follows on an entry. -/
def ofEntry : Reply σ τ (Option SceneTarget) → Course σ τ
  | (.ok (some next), c) => .toward next c
  | (.ok none, c) => .ended (.ok (), c)
  | (.error e, c) => .ended (.error e, c)

/-- How many rounds there may be yet. -/
def ahead : Course σ τ → Nat
  | .toward (.prompts _) _ => 2
  | .toward _ _ => 1
  | .ended _ => 0

theorem ahead_ofEntry_andThen_le {α : Type} {r : Reply σ τ α}
    {next : α → Controller σ τ → Reply σ τ (Option SceneTarget)} {n : Nat}
    (h : ∀ a c, (ofEntry (next a c)).ahead ≤ n) : (ofEntry (r.andThen next)).ahead ≤ n := by
  obtain ⟨result, c⟩ := r
  cases result with
  | ok a => exact h a c
  | error e => exact Nat.zero_le n

variable [Presenter σ] [LedgerStore τ] {now : Instant}

/-- One round: the active scene is left and the next one entered, unless that one is active already. -/
def advance (now : Instant) : Course σ τ → Course σ τ
  | .ended answer => .ended answer
  | .toward target c =>
    if c.activeScene = some target.id then .ended (.ok (), c)
    else ofEntry (c.leave.andThen fun _ c => c.enterOnly target now)

/-- What comes of it if the rest of the way is gone at once. -/
def settle (now : Instant) : Course σ τ → Reply σ τ Unit
  | .toward target c => c.switchTo target now
  | .ended answer => answer

/-! ### What comes of it -/

theorem settle_ofEntry_andThen {α : Type} (r : Reply σ τ α)
    (next : α → Controller σ τ → Reply σ τ (Option SceneTarget)) :
    settle now (ofEntry (r.andThen next)) = r.andThen fun a c => settle now (ofEntry (next a c)) := by
  obtain ⟨result, c⟩ := r
  cases result with
  | ok a => rfl
  | error e => rfl

/-- To present an arrival is to take it in and to go on to what it calls for. -/
theorem settle_takeIn (c : Controller σ τ) (a : Arrival) :
    settle now (ofEntry (.ok (c.takeIn a).1, (c.takeIn a).2)) =
      (c.present a).andThen fun _ c => (.ok (), c) := by
  obtain ⟨step, session, ledger⟩ := a
  cases step with
  | frame f => rfl
  | menu => rfl
  | ending e =>
    -- The prompts are active by now, so the screen of the ending is not, and they are left for it.
    rw [Controller.present_of_ending rfl, Reply.andThen_assoc]
    show (Controller.persist _).leave.andThen _ = _
    congr 1
    funext _ c
    rw [Reply.andThen_assoc]
    exact (Reply.andThen_unit (c.enterGameOver e)).symm

/-- To enter a scene is to go on from its entry to what that calls for. -/
theorem settle_enterOnly (c : Controller σ τ) (target : SceneTarget) :
    settle now (ofEntry (c.enterOnly target now)) = c.enter target now := by
  cases target with
  | splash =>
    rw [Controller.enterOnly, settle_ofEntry_andThen]
    exact Reply.andThen_unit c.enterSplash
  | gameOver e =>
    rw [Controller.enterOnly, settle_ofEntry_andThen]
    exact Reply.andThen_unit (c.enterGameOver e)
  | prompts v =>
    rw [Controller.enterOnly, settle_ofEntry_andThen, Controller.enter, Controller.enterPrompts]
    congr 1
    funext _ c
    exact settle_takeIn c _

/-- **One round.** It makes no difference to what comes of it in the end. -/
theorem settle_advance (course : Course σ τ) : settle now (advance now course) = settle now course := by
  cases course with
  | ended answer => rfl
  | toward target c =>
    rw [advance, settle, Controller.switchTo]
    split
    · rfl
    · rw [settle_ofEntry_andThen]
      congr 1
      funext _ c
      exact settle_enterOnly c target

/-! ### How long it takes -/

/-- An entry calls for nothing, but for the screen of an ending if it is one to the prompts. -/
theorem ahead_enterOnly_le (c c' : Controller σ τ) (target : SceneTarget) :
    (ofEntry (c'.enterOnly target now)).ahead ≤ (toward target c).ahead - 1 := by
  cases target with
  | splash => exact ahead_ofEntry_andThen_le fun _ _ => Nat.le_refl 0
  | gameOver e => exact ahead_ofEntry_andThen_le fun _ _ => Nat.le_refl 0
  | prompts v =>
    apply ahead_ofEntry_andThen_le
    intro _ c''
    -- The start is shown, or it is a menu, or it is an ending, whose screen takes one more round.
    show (ofEntry (.ok (c''.takeIn _).1, (c''.takeIn _).2)).ahead ≤ 1
    rw [Controller.takeIn]
    split
    · exact Nat.zero_le 1
    · exact Nat.zero_le 1
    · exact Nat.le_refl 1

/-- **One round.** It takes one off from the rounds that there may be yet. -/
theorem ahead_advance_le (now : Instant) (course : Course σ τ) :
    (advance now course).ahead ≤ course.ahead - 1 := by
  cases course with
  | ended answer => exact Nat.le_refl 0
  | toward target c =>
    rw [advance]
    split
    · exact Nat.zero_le _
    · exact ahead_ofEntry_andThen_le fun _ c' => ahead_enterOnly_le c c' target

/-- **Some rounds.** They make no difference, and each takes one off. -/
theorem repeat_advance_spec (now : Instant) (n : Nat) (course : Course σ τ) :
    settle now (Nat.repeat (advance now) n course) = settle now course ∧
      (Nat.repeat (advance now) n course).ahead ≤ course.ahead - n := by
  induction n with
  | zero => exact ⟨rfl, Nat.le_refl _⟩
  | succ n ih =>
    have hle := ahead_advance_le now (Nat.repeat (advance now) n course)
    rw [Nat.repeat, settle_advance]
    exact ⟨ih.1, by omega⟩

theorem eq_ended_of_ahead {course : Course σ τ} (h : course.ahead = 0) :
    course = .ended (settle now course) := by
  cases course with
  | ended answer => rfl
  | toward target c => cases target <;> cases h

/-- The loop is over after two rounds, with the answer of `switchTo`. -/
theorem repeat_advance (c : Controller σ τ) (target : SceneTarget) (now : Instant) :
    Nat.repeat (advance now) 2 (.toward target c) = .ended (c.switchTo target now) := by
  obtain ⟨hsettle, hle⟩ := repeat_advance_spec now 2 (.toward target c)
  have hahead : (toward target c).ahead ≤ 2 := by
    cases target with
    | prompts v => exact Nat.le_refl 2
    | splash => exact Nat.le_succ 1
    | gameOver e => exact Nat.le_succ 1
  have hended : (Nat.repeat (advance now) 2 (toward target c)).ahead = 0 := by omega
  rw [settle] at hsettle
  rw [← hsettle]
  exact eq_ended_of_ahead hended

end Course

/-! ## The scenes entered -/

/-- The scene that is asked to be entered. -/
def Directive.entered? : Directive → Option SceneId
  | .transition (.enter scene) => some scene
  | _ => none

namespace Directive

theorem filterMap_entered?_displays (ds : List Display) :
    (ds.map Directive.display).filterMap entered? = [] := by
  rw [List.filterMap_map, List.filterMap_eq_nil_iff]
  exact fun _ _ => rfl

end Directive

open Directive (entered? filterMap_entered?_displays)

theorem Scenario.filterMap_entered?_script (sc : Scenario) (reached total : Nat) (p : Passage) :
    (sc.script reached total p).filterMap entered? <+: [.gameOver] := by
  rw [script]
  split
  · exact List.prefix_rfl
  · split
    · exact List.nil_prefix
    · exact List.nil_prefix

namespace Controller

theorem filterMap_entered?_exitScript (c : Controller σ τ) : c.exitScript.filterMap entered? = [] := by
  rw [exitScript]
  cases c.active with
  | none => rfl
  | some scene =>
    show (scene.farewell.map Directive.display ++ [_]).filterMap entered? = []
    rw [List.filterMap_append, filterMap_entered?_displays]
    rfl

section Presenting

variable [Presenter σ]

/-- A script is asked for as a whole or in part, from its beginning. -/
theorem presenter_enact {α : Type} (c : Controller σ τ) (ds : List Directive) (scene : Scene) (answer : α) :
    ∃ part, part <+: ds ∧ (c.enact ds scene answer).2.presenter = part.foldl Presenter.ask c.presenter := by
  rcases c.enact_cases ds scene answer with hall | ⟨part, e, hpart, hrefused⟩
  · rw [hall]
    exact ⟨ds, List.prefix_rfl, rfl⟩
  · rw [hrefused]
    exact ⟨part, hpart.isPrefix, rfl⟩

/-- A script that was asked for as a whole leads to its scene. -/
theorem active_of_enact {α : Type} {c c' : Controller σ τ} {ds : List Directive} {scene : Scene}
    {answer answer' : α} (h : c.enact ds scene answer = (.ok answer', c')) : c'.active = some scene := by
  rcases c.enact_cases ds scene answer with hall | ⟨part, e, -, hrefused⟩
  · cases hall.symm.trans h
    rfl
  · cases hrefused.symm.trans h

end Presenting

variable [Presenter σ] [LedgerStore τ]

/-- What is entered on the way is the scene, and then the screen of an ending, if one gets as far. -/
theorem presenter_switchTo (c : Controller σ τ) (target : SceneTarget) (now : Instant) :
    ∃ part : List Directive, part.filterMap entered? <+: [target.id, .gameOver] ∧
      (c.switchTo target now).2.presenter = part.foldl Presenter.ask c.presenter := by
  by_cases hscene : c.activeScene = some target.id
  · rw [switchTo, if_pos hscene]
    exact ⟨[], List.nil_prefix, rfl⟩
  -- To leave a scene enters none, so it is the rest of the script that counts.
  cases target with
  | splash =>
    rw [switchTo_splash hscene]
    obtain ⟨part, hpart, hpresenter⟩ := c.presenter_enact (c.exitScript ++
      [.display (.background c.scenario.config.defaultBackground), .transition (.enter .splash)]) .splash ()
    refine ⟨part, (hpart.filterMap entered?).trans ?_, hpresenter⟩
    rw [List.filterMap_append, filterMap_entered?_exitScript]
    exact List.prefix_append [SceneId.splash] _
  | gameOver e =>
    rw [switchTo_gameOver hscene]
    obtain ⟨part, hpart, hpresenter⟩ := c.presenter_enact (c.exitScript ++
      ((c.endingDisplays e).map .display ++ [.transition (.enter .gameOver)])) (.gameOver e) ()
    refine ⟨part, (hpart.filterMap entered?).trans ?_, hpresenter⟩
    rw [List.filterMap_append, filterMap_entered?_exitScript, List.filterMap_append,
      filterMap_entered?_displays]
    exact List.prefix_append [SceneId.gameOver] _
  | prompts v =>
    have hentry : (c.exitScript ++ [Directive.transition (.enter .prompts)]).filterMap entered? =
        [.prompts] := by
      rw [List.filterMap_append, filterMap_entered?_exitScript]
      rfl
    rcases switchTo_prompts_cases hscene now with ⟨part, e, hpart, hrefused⟩ | ⟨c', hc', harrived⟩
    · rw [hrefused]
      refine ⟨part, (hpart.isPrefix.filterMap entered?).trans ?_, rfl⟩
      rw [hentry]
      exact List.prefix_append [SceneId.prompts] _
    · -- Once the prompts are entered there is the script of the start, which enters one screen at most.
      rw [harrived]
      obtain ⟨part, hpart, hpresenter⟩ := c'.presenter_enact
        (c.scenario.script c'.ledger.reachedCount c'.ledger.total (c.scenario.story.startPassage v))
        (Session.fresh.sceneAt c.scenario (c.scenario.story.startPassage v)) ()
      have hnoted : c'.presenter =
          (c.exitScript ++ [Directive.transition (.enter .prompts)]).foldl Presenter.ask c.presenter := by
        rw [hc', (noting_eq ..).2]
        rfl
      refine ⟨c.exitScript ++ [.transition (.enter .prompts)] ++ part, ?_, ?_⟩
      · rw [List.filterMap_append, hentry]
        apply (List.prefix_append_right_inj [SceneId.prompts]).2
        exact (hpart.filterMap entered?).trans (c.scenario.filterMap_entered?_script ..)
      · rw [hpresenter, hnoted, ← List.foldl_append]

theorem issued_switchTo (c : Controller σ τ) (target : SceneTarget) (now : Instant) :
    c.issued [(.switchTo target, now)] =
      ((c.watched Watched.jot []).switchTo target now).2.presenter.notes := by
  rw [issued, after_cons, after_nil, operate, Reply.snd_andThen]

theorem entered_issued_switchTo (c : Controller σ τ) (target : SceneTarget) (now : Instant) :
    (c.issued [(.switchTo target, now)]).filterMap entered? <+: [target.id, .gameOver] := by
  obtain ⟨part, hpart, hpresenter⟩ := (c.watched Watched.jot []).presenter_switchTo target now
  have hnotes : ((c.watched Watched.jot []).switchTo target now).2.presenter.notes = part := by
    rw [hpresenter, Watched.foldl_ask]
    exact Watched.foldl_jot [] part
  rwa [issued_switchTo, hnotes]

/-- On the way to a scene that is active already nothing happens and nothing is asked for. -/
theorem switchTo_of_active {c : Controller σ τ} {target : SceneTarget}
    (h : c.activeScene = some target.id) (now : Instant) :
    c.switchTo target now = (.ok (), c) ∧ c.issued [(.switchTo target, now)] = [] := by
  refine ⟨if_pos h, ?_⟩
  have hwatched : (c.watched Watched.jot []).activeScene = some target.id := h
  rw [issued_switchTo, switchTo, if_pos hwatched]
  rfl

/-- Nothing stands in the way to a scene but what is refused. -/
theorem exists_switchTo_of_acknowledges {c : Controller σ τ} (h : Acknowledges c.presenter)
    (target : SceneTarget) (now : Instant) : ∃ c', c.switchTo target now = (.ok (), c') := by
  by_cases hscene : c.activeScene = some target.id
  · exact ⟨c, if_pos hscene⟩
  cases target with
  | splash =>
    rw [switchTo_splash hscene, enact_of_acknowledges h]
    exact ⟨_, rfl⟩
  | gameOver e =>
    rw [switchTo_gameOver hscene, enact_of_acknowledges h]
    exact ⟨_, rfl⟩
  | prompts v =>
    have hall := askAll_of_acknowledges (c := c.vacated) h (c.exitScript ++ [.transition (.enter .prompts)])
    have hnoted := (c.vacated.asked (c.exitScript ++ [.transition (.enter .prompts)])).noting_eq
      (c.scenario.story.startPassage v) now
    rw [switchTo_prompts_arrive hscene, hall, Reply.andThen_ok]
    refine ⟨_, enact_of_acknowledges ?_ ..⟩
    exact hnoted.2 ▸ h.foldl_ask _

end Controller

/-! ## Where one lands -/

/-- A passage has been met once, and nothing else has. -/
def Tally.CountsOnly (t : Tally) (p : Passage) : Prop :=
  t.counts.entries = (p.outcome.filter Outcome.isTallied).toList.map fun o => (o.tag, 1)

/-- The scene that one should come to on the way to a scene. -/
inductive Lands (sc : Scenario) : SceneTarget → Scene → Prop
  | splash : Lands sc .splash .splash
  | gameOver (e : Ending) : Lands sc (.gameOver e) (.gameOver e)
  /-- The start is no ending: a new session stands there. -/
  | prompts {v : StartVariant} {p : Passage} {s : Session} (hp : sc.story.get (sc.story.startOf v) = .ok p)
      (hend : p.isEnding = false) (hcurrent : s.current = some (sc.story.startOf v))
      (htally : s.tally.CountsOnly p) : Lands sc (.prompts v) (.prompts s)
  /-- The start is an ending. -/
  | ending {v : StartVariant} {p : Passage} {o : Outcome} (hp : sc.story.get (sc.story.startOf v) = .ok p)
      (ho : p.outcome = some o) (hcat : o.category = .ending) :
      Lands sc (.prompts v) (.gameOver ⟨o.tag, p.prompt sc.config.linkDelimiter, p.name⟩)

theorem Session.countsOnly_tallyAt (p : Passage) : (fresh.tallyAt p).CountsOnly p := by
  rw [tallyAt, Tally.CountsOnly]
  cases p.outcome with
  | none => rfl
  | some o =>
    rw [Option.filter_some]
    show (Tally.record .empty o).counts.entries = _
    rw [Tally.record]
    split
    · rfl
    · rfl

/-- An arrival at a start is where one should come to. -/
theorem lands_sceneAt (sc : Scenario) (v : StartVariant) :
    Lands sc (.prompts v) (Session.fresh.sceneAt sc (sc.story.startPassage v)) := by
  have hget := sc.story.get?_startOf v
  have hp := Story.get_eq_ok_iff.2 hget
  obtain ⟨-, hid⟩ := Story.mem_of_get?_eq_some hget
  cases hend : (sc.story.startPassage v).isEnding with
  | false =>
    have hscene : Session.fresh.sceneAt sc (sc.story.startPassage v) =
        .prompts ⟨some (sc.story.startPassage v).id, Session.fresh.tallyAt (sc.story.startPassage v)⟩ := by
      rw [Session.sceneAt]
      split
      · next e he => exact absurd he (Scenario.stepOf_ne_ending hend e)
      · rfl
    rw [hscene]
    exact .prompts hp hend (congrArg some hid) (Session.countsOnly_tallyAt _)
  | true =>
    obtain ⟨o, ho, hcat⟩ := Passage.isEnding_eq_true_iff.1 hend
    rw [Session.sceneAt, Scenario.stepOf_of_ending ho hcat]
    exact .ending hp ho hcat

namespace Controller

variable [Presenter σ] [LedgerStore τ]

/-- If nothing is refused one comes to where one should. -/
theorem lands_of_switchTo {c c' : Controller σ τ} {target : SceneTarget} {now : Instant}
    (hscene : c.activeScene ≠ some target.id) (h : c.switchTo target now = (.ok (), c')) :
    ∃ scene, c'.active = some scene ∧ Lands c.scenario target scene := by
  cases target with
  | splash =>
    rw [switchTo_splash hscene] at h
    exact ⟨_, active_of_enact h, .splash⟩
  | gameOver e =>
    rw [switchTo_gameOver hscene] at h
    exact ⟨_, active_of_enact h, .gameOver e⟩
  | prompts v =>
    rcases switchTo_prompts_cases hscene now with ⟨part, e, -, hrefused⟩ | ⟨c'', -, harrived⟩
    · cases hrefused.symm.trans h
    · rw [harrived] at h
      exact ⟨_, active_of_enact h, lands_sceneAt c.scenario v⟩

/--
**Going to a scene.** From any play, to any scene, whatever is refused: the loop is over after two
rounds, and the scenes it enters are the one that was asked for and then, at most, the screen of an
ending. If the scene is active already, nothing happens. If it is not and nothing is refused, the
play is where it should be.
-/
theorem switchTo_lands (c : Controller σ τ) (target : SceneTarget) (now : Instant) :
    Nat.repeat (Course.advance now) 2 (.toward target c) = .ended (c.switchTo target now) ∧
    (c.issued [(.switchTo target, now)]).filterMap entered? <+: [target.id, .gameOver] ∧
    (c.activeScene = some target.id →
      c.switchTo target now = (.ok (), c) ∧ c.issued [(.switchTo target, now)] = []) ∧
    (c.activeScene ≠ some target.id → ∀ c', c.switchTo target now = (.ok (), c') →
      ∃ scene, c'.active = some scene ∧ Lands c.scenario target scene) ∧
    (Acknowledges c.presenter → ∃ c', c.switchTo target now = (.ok (), c')) := by
  refine ⟨Course.repeat_advance c target now, c.entered_issued_switchTo target now, ?_, ?_, ?_⟩
  · exact fun hscene => switchTo_of_active hscene now
  · exact fun hscene c' h => lands_of_switchTo hscene h
  · exact fun h => exists_switchTo_of_acknowledges h target now

/-- From the screen of an ending back to it, through the prompts, since the other start is the ending. -/
example :
    let home : Ending := ⟨"Good-End", "Safe and sound.", "Home"⟩
    let c := { brief (Recorder.refusingAt []) MemoryStore.empty with active := some (.gameOver home) }
    (c.issued [(.switchTo (.prompts .alt), .newYear)]).filterMap entered? = [.prompts, .gameOver] ∧
      (c.switchTo (.prompts .alt) .newYear).2.active = some (.gameOver home) := by
  decide +kernel

end Controller

end VisualNovel
