/-
  VisualNovel.Proofs.Scene.Reading

  Reading a story on a terminal, line by line. A reading is a play together with
  the walk of its sessions, which has the history of all that was asked of them.
  The play follows the walk: it stands where the walk has got to (`Follows`).
  One line either changes nothing but what is printed, or it is a decision that
  the screen offers, which the session takes. So no line of a reading fails.
-/

import VisualNovel.EventLoop
import VisualNovel.Proofs.Scene.Screen
import VisualNovel.Proofs.Story.Reachability

namespace VisualNovel

open Time (Instant)

/-- Whether a play is over after an event. -/
def Verdict.isEnd : Verdict → Bool
  | .goesOn => false
  | .changedScene => false
  | .quits => true
  | .fails _ => true

/-! ## Decisions as calls -/

/-- What a decision asks of a session. -/
def UserChoice.call : UserChoice → Session.Call
  | .passage id => .choose id
  | .start v => .begin v
  | .restart => .begin .default

namespace Controller

variable {σ τ : Type}

/-- Whether a decision is meant for the active scene. -/
def accepts (c : Controller σ τ) (choice : UserChoice) : Bool :=
  match c.active, choice with
  | some .splash, .start _ => true
  | some (.prompts _), .passage _ => true
  | some (.gameOver _), .restart => true
  | _, _ => false

/-- A decision that is not meant for the active scene asks nothing of the session. -/
theorem dispatch_of_not_accepts [Presenter σ] [LedgerStore τ] {c : Controller σ τ} {choice : UserChoice}
    (h : c.accepts choice = false) (now : Instant) : c.dispatch choice now = (.ok .ignored, c) := by
  revert h
  fun_cases accepts c choice
  case case1 => nofun
  case case2 => nofun
  case case3 => nofun
  case case4 hsplash hprompts hgameOver =>
    intro _
    rw [dispatch]
    · exact hsplash
    · exact hprompts
    · exact hgameOver

/-- A walk with what an input asks of the session. -/
def note (c : Controller σ τ) (w : Walk) (input : Input) (now : Instant) : Walk :=
  match input with
  | .choice choice => if c.accepts choice then w.call c.scenario choice.call now else w
  | _ => w

theorem note_of_no_choice {c : Controller σ τ} {w : Walk} {input : Input}
    (h : ∀ choice, input ≠ .choice choice) (now : Instant) : c.note w input now = w := by
  cases input with
  | skip => rfl
  | quit => rfl
  | choice choice => exact absurd rfl (h choice)

/-! ## Following a walk -/

/-- A play on a terminal stands where a walk has got to, whose session is the sum of its path. -/
structure Follows (sc : Scenario) (w : Walk) (c : Controller Terminal τ) : Prop where
  stands : c.Stands sc w.session w.ledger (w.path sc.story)
  sums : w.session.Sums (w.path sc.story)

variable {sc : Scenario} {w : Walk} {c : Controller Terminal τ} {choice : UserChoice}

/-- The scene on screen is the active one. -/
theorem Stands.scene {s : Session} {l : Ledger} {path : List Passage} (h : c.Stands sc s l path) :
    c.presenter.scene = c.activeScene :=
  h.shows.scene.trans h.active.symm

theorem active_of_splash (h : c.activeScene = some .splash) : c.active = some .splash := by
  obtain ⟨scene, hscene, hid⟩ := Option.map_eq_some_iff.1 h
  cases scene with
  | splash => exact hscene
  | prompts s => cases hid
  | gameOver e => cases hid

theorem active_of_prompts (h : c.activeScene = some .prompts) : ∃ s, c.active = some (.prompts s) := by
  obtain ⟨scene, hscene, hid⟩ := Option.map_eq_some_iff.1 h
  cases scene with
  | splash => cases hid
  | prompts s => exact ⟨s, hscene⟩
  | gameOver e => cases hid

theorem active_of_gameOver (h : c.activeScene = some .gameOver) : ∃ e, c.active = some (.gameOver e) := by
  obtain ⟨scene, hscene, hid⟩ := Option.map_eq_some_iff.1 h
  cases scene with
  | splash => cases hid
  | prompts s => cases hid
  | gameOver e => exact ⟨e, hscene⟩

/-- The screen offers only what the active scene accepts. -/
theorem Stands.accepts {s : Session} {l : Ledger} {path : List Passage} (h : c.Stands sc s l path)
    (hoffers : c.presenter.Offers choice) : c.accepts choice = true := by
  cases choice with
  | start v =>
    have hactive := active_of_splash (h.scene.symm.trans hoffers)
    simp only [Controller.accepts, hactive]
  | passage id =>
    obtain ⟨s', hactive⟩ := active_of_prompts (h.scene.symm.trans hoffers.1)
    simp only [Controller.accepts, hactive]
  | restart =>
    obtain ⟨e, hactive⟩ := active_of_gameOver (h.scene.symm.trans hoffers)
    simp only [Controller.accepts, hactive]

/-- A choice on screen is a link of a passage of the story. -/
theorem Follows.exists_get? (h : c.Follows sc w) {id : PassageId}
    (hoffers : c.presenter.Offers (.passage id)) : ∃ p, sc.story.get? id = some p := by
  obtain ⟨-, item, hitem, rfl⟩ := hoffers
  rw [h.stands.shows.choices] at hitem
  obtain ⟨p, hp, -, l, hl, rfl⟩ := Screen.exists_link_of_mem_choices hitem
  obtain ⟨id, hid⟩ := Walk.exists_get?_of_mem_path hp
  exact Story.exists_get?_of_link hid hl

/-- While the prompts are on screen the session has a position. -/
theorem Follows.current_ne_none (h : c.Follows sc w) (hscene : c.presenter.scene = some .prompts) :
    w.session.current ≠ none := by
  have hprompts : (Screen.after (w.path sc.story)).scene = .prompts :=
    Option.some.inj (h.stands.shows.scene.symm.trans hscene)
  -- The latest passage is no ending, so it gave the session its position.
  obtain ⟨p, rest, hpath, hend⟩ := Screen.exists_cons_of_scene_eq_prompts hprompts
  intro hnone
  have := h.sums.current_eq_none_iff.1 hnone p (by simp [hpath])
  rw [hend] at this
  cases this

/-- What the screen offers is not refused by the session. -/
theorem Follows.answer (h : c.Follows sc w) (hoffers : c.presenter.Offers choice) (now : Instant) :
    ∃ p, sc.story.get? (choice.call.target sc.story) = some p ∧
      w.session.answer sc w.ledger choice.call now =
        .ok ((choice.call.onto w.session).arrive sc w.ledger p now) := by
  cases choice with
  | start v => exact ⟨_, sc.story.get?_startOf v, rfl⟩
  | restart => exact ⟨_, sc.story.get?_startOf .default, rfl⟩
  | passage id =>
    -- The session has begun and the number is one of the story, so only the arrival is left.
    obtain ⟨p, hp⟩ := h.exists_get? hoffers
    rcases w.session.choose_cases sc w.ledger id now with ⟨hnone, -⟩ | ⟨-, hid, -⟩ | ⟨-, q, hq, ha⟩
    · exact absurd hnone (h.current_ne_none hoffers.1)
    · rw [Story.get?_eq_none_iff.2 hid] at hp
      cases hp
    · exact ⟨q, hq, ha⟩

/-- A play that stands where an answered call leads to follows the walk with that call. -/
theorem Stands.follows {call : Session.Call} {now : Instant} {a : Arrival} {p : Passage}
    (hsums : w.session.Sums (w.path sc.story)) (ha : w.session.answer sc w.ledger call now = .ok a)
    (hp : sc.story.get? (call.target sc.story) = some p)
    (h : c.Stands sc a.session a.ledger (p :: w.pathOnto sc.story call)) :
    c.Follows sc (w.call sc call now) := by
  refine ⟨?_, Walk.sums_call hsums call now⟩
  rw [Walk.path_of_ok ha hp, Walk.call_of_ok ha]
  exact h

section Playing

variable [LedgerStore τ]

/-- From outside the prompts a new session is begun. -/
theorem Follows.begin (h : c.Follows sc w) {scene : Scene} (hactive : c.active = some scene)
    (hscene : ∀ s, scene ≠ .prompts s) (v : StartVariant) (now : Instant) :
    ((c.switchTo (.prompts v) now).andThen fun _ c => ((.ok .transitioned, c) : Reply _ τ Dispatch)).Ensures
      (fun d c' => d ≠ .ignored ∧ c'.Follows sc (w.call sc (.begin v) now)) (fun _ _ => False) := by
  have hchoices : c.presenter.choices = [] := by
    rw [h.stands.shows.choices]
    apply Screen.choices_eq_nil
    intro hprompts
    obtain ⟨s, hs⟩ := active_of_prompts (h.stands.active.trans (congrArg some hprompts))
    rw [hactive] at hs
    exact hscene s (Option.some.inj hs)
  apply (switchTo_prompts_terminal h.stands.scenario hactive hscene hchoices v now).andThen
  intro _ c' hc'
  rw [h.stands.ledger] at hc'
  exact ⟨by nofun, hc'.follows h.sums rfl (sc.story.get?_startOf v)⟩

/-- **The screen and the play agree.** What the screen offers is taken, and the play follows. -/
theorem Follows.dispatch (h : c.Follows sc w) (hoffers : c.presenter.Offers choice) (now : Instant) :
    (c.dispatch choice now).Ensures
      (fun d c' => d ≠ .ignored ∧ c'.Follows sc (w.call sc choice.call now)) (fun _ _ => False) := by
  cases choice with
  | start v =>
    have hactive := active_of_splash (h.stands.scene.symm.trans hoffers)
    simp only [Controller.dispatch, hactive]
    exact h.begin hactive (by simp) v now
  | restart =>
    obtain ⟨e, hactive⟩ := active_of_gameOver (h.stands.scene.symm.trans hoffers)
    simp only [Controller.dispatch, hactive]
    exact h.begin hactive (by simp) .default now
  | passage id =>
    obtain ⟨s, hactive⟩ := active_of_prompts (h.stands.scene.symm.trans hoffers.1)
    obtain ⟨p, hp, ha⟩ := h.answer hoffers now
    have hs : s = w.session := h.stands.session s hactive
    have hchoose : s.choose c.scenario c.ledger id now = .ok (w.session.arrive sc w.ledger p now) := by
      rw [hs, h.stands.scenario, h.stands.ledger]
      exact ha
    have hshows : c.presenter.Shows ⟨.prompts, (Screen.after (w.path sc.story)).choices⟩ :=
      ⟨hoffers.1, h.stands.shows.choices⟩
    simp only [Controller.dispatch, hactive, hchoose]
    apply (present_terminal h.stands.scenario hshows p now).mono
    · intro d c' hc'
      exact ⟨hc'.1, hc'.2.follows h.sums ha hp⟩
    · exact fun _ _ hfalse => hfalse

/-! ## One line -/

/-- A line that is a decision goes to the session, and the play goes on. -/
theorem Follows.handle_choice (h : c.Follows sc w) {line : String}
    (hline : (c.presenter.interpret line).1 = .choice choice) (now : Instant) :
    ((c.handle Terminal.interpret line now).1 = .goesOn ∨
      (c.handle Terminal.interpret line now).1 = .changedScene) ∧
    (c.handle Terminal.interpret line now).2.Follows sc (w.call sc choice.call now) := by
  obtain ⟨hscreen, hoffers⟩ := Terminal.offers_of_choice hline
  have hinterpret : c.presenter.interpret line = (.choice choice, c.presenter) := Prod.ext hline hscreen
  have hdispatch := h.dispatch hoffers now
  simp only [handle, hinterpret]
  -- Of the answers that `handle` tells apart the invariant leaves two.
  rcases hreply : c.dispatch choice now with ⟨result, c'⟩
  rw [hreply] at hdispatch
  cases result with
  | error e => exact hdispatch.elim
  | ok d =>
    cases d with
    | handled => exact ⟨.inl rfl, hdispatch.2⟩
    | transitioned => exact ⟨.inr rfl, hdispatch.2⟩
    | ignored => exact absurd rfl hdispatch.1

/-- Any other line leaves all as it was, but for what is printed. -/
theorem Follows.handle_other (h : c.Follows sc w) {line : String}
    (hline : ∀ choice, (c.presenter.interpret line).1 ≠ .choice choice) (now : Instant) :
    ((c.handle Terminal.interpret line now).1 = .goesOn ∨
      (c.handle Terminal.interpret line now).1 = .quits) ∧
    (c.handle Terminal.interpret line now).2.Follows sc w := by
  obtain ⟨lines, hprint⟩ := c.presenter.exists_print_of_interpret line
  have hfollows : Follows sc w { c with presenter := c.presenter.print lines } :=
    ⟨⟨h.stands.scenario, h.stands.ledger, ⟨h.stands.shows.scene, h.stands.shows.choices⟩,
      h.stands.active, h.stands.session⟩, h.sums⟩
  rcases hinterpret : c.presenter.interpret line with ⟨input, t⟩
  rw [hinterpret] at hline hprint
  cases hprint
  simp only [handle, hinterpret]
  cases input with
  | skip => exact ⟨.inl rfl, hfollows⟩
  | quit => exact ⟨.inr rfl, hfollows⟩
  | choice choice => exact absurd rfl (hline choice)

/-- No line makes a play fail: a play that is over was quit. -/
theorem Follows.quits_of_isEnd (h : c.Follows sc w) {line : String} {now : Instant}
    (hend : (c.handle Terminal.interpret line now).1.isEnd = true) :
    (c.handle Terminal.interpret line now).1 = .quits := by
  by_cases hline : ∃ choice, (c.presenter.interpret line).1 = .choice choice
  · obtain ⟨choice, hline⟩ := hline
    rcases (h.handle_choice hline now).1 with hverdict | hverdict
    · rw [hverdict] at hend
      cases hend
    · rw [hverdict] at hend
      cases hend
  · rcases (h.handle_other (not_exists.1 hline) now).1 with hverdict | hverdict
    · rw [hverdict] at hend
      cases hend
    · exact hverdict

end Playing

end Controller

/-! ## Readings -/

/-- A play on a fresh terminal that has not been started. -/
def Controller.onTerminal {τ : Type} (sc : Scenario) (assets : AssetManifest) (palette : Text.Palette)
    (store : τ) (ledger : Ledger) : Controller Terminal τ where
  scenario := sc
  presenter := { assets, palette }
  store
  ledger

/-- A play on a terminal, with the walk of its sessions. -/
structure Reading (τ : Type) where
  play : Controller Terminal τ
  walk : Walk
  isOver : Bool

namespace Reading

variable {τ : Type} [LedgerStore τ]

/-- The reading that a play opens with. -/
def opening (c : Controller Terminal τ) (now : Instant) : Reading τ :=
  let (result, play) := c.start now
  { play, walk := .fresh c.ledger, isOver := !result.isOk }

/-- Handles a line; once the reading is over nothing is read any more. -/
def read (r : Reading τ) (line : String) (now : Instant) : Reading τ :=
  if r.isOver then r
  else
    let (verdict, play) := r.play.handle Terminal.interpret line now
    { play
      walk := r.play.note r.walk (r.play.presenter.interpret line).1 now
      isOver := verdict.isEnd }

/-- The reading after some lines, each at an instant of its own. -/
def after (r : Reading τ) (lines : List (String × Instant)) : Reading τ :=
  lines.foldl (fun r l => r.read l.1 l.2) r

/-- The play of a reading follows its walk. -/
abbrev Follows (sc : Scenario) (r : Reading τ) : Prop :=
  r.play.Follows sc r.walk

variable {sc : Scenario} {r : Reading τ} {line : String} {now : Instant}

theorem read_of_over (h : r.isOver = true) (line : String) (now : Instant) : r.read line now = r := by
  rw [read, if_pos h]

theorem after_of_over (h : r.isOver = true) (lines : List (String × Instant)) : r.after lines = r := by
  induction lines with
  | nil => rfl
  | cons l lines ih =>
    rw [after, List.foldl_cons, read_of_over h]
    exact ih

theorem read_of_goes (h : r.isOver = false) (line : String) (now : Instant) :
    r.read line now =
      ⟨(r.play.handle Terminal.interpret line now).2,
        r.play.note r.walk (r.play.presenter.interpret line).1 now,
        (r.play.handle Terminal.interpret line now).1.isEnd⟩ := by
  rw [read, if_neg (by simp [h])]

/-- A line that is a decision is one more call of the walk. -/
theorem Follows.read_choice (h : r.Follows sc) (hgoes : r.isOver = false) {choice : UserChoice}
    (hline : (r.play.presenter.interpret line).1 = .choice choice) (now : Instant) :
    (r.read line now).isOver = false ∧ (r.read line now).walk = r.walk.call sc choice.call now ∧
      (r.read line now).Follows sc := by
  have haccepts := h.stands.accepts (Terminal.offers_of_choice hline).2
  have hwalk : r.play.note r.walk (r.play.presenter.interpret line).1 now =
      r.walk.call sc choice.call now := by
    rw [hline, Controller.note, if_pos haccepts, h.stands.scenario]
  obtain ⟨hverdict, hfollows⟩ := h.handle_choice hline now
  rw [read_of_goes hgoes, hwalk]
  refine ⟨?_, rfl, hfollows⟩
  rcases hverdict with hverdict | hverdict
  · rw [hverdict]; rfl
  · rw [hverdict]; rfl

/-- Any other line leaves the walk as it is. -/
theorem Follows.read_other (h : r.Follows sc)
    (hline : ∀ choice, (r.play.presenter.interpret line).1 ≠ .choice choice) (now : Instant) :
    (r.read line now).walk = r.walk ∧ (r.read line now).Follows sc := by
  cases hover : r.isOver with
  | true =>
    rw [read_of_over hover]
    exact ⟨rfl, h⟩
  | false =>
    rw [read_of_goes hover, Controller.note_of_no_choice hline]
    exact ⟨rfl, (h.handle_other hline now).2⟩

/-- **One line.** The play still follows the walk, which has grown by what the screen offered, if at all. -/
theorem Follows.read (h : r.Follows sc) (line : String) (now : Instant) :
    (r.read line now).Follows sc ∧
      ((r.read line now).walk = r.walk ∨ ∃ choice, r.play.presenter.Offers choice ∧
        (r.read line now).walk = r.walk.call sc choice.call now) := by
  cases hover : r.isOver with
  | true =>
    rw [read_of_over hover]
    exact ⟨h, .inl rfl⟩
  | false =>
    by_cases hline : ∃ choice, (r.play.presenter.interpret line).1 = .choice choice
    · obtain ⟨choice, hline⟩ := hline
      obtain ⟨-, hwalk, hfollows⟩ := h.read_choice hover hline now
      exact ⟨hfollows, .inr ⟨choice, (Terminal.offers_of_choice hline).2, hwalk⟩⟩
    · obtain ⟨hwalk, hfollows⟩ := h.read_other (not_exists.1 hline) now
      exact ⟨hfollows, .inl hwalk⟩

/-- **The rule of readings.** What every call keeps that a screen offers is kept by a whole reading. -/
theorem Follows.after {P : Walk → Prop}
    (hcall : ∀ (c : Controller Terminal τ) (w : Walk) (choice : UserChoice) (now : Instant),
      c.Follows sc w → c.presenter.Offers choice → P w → P (w.call sc choice.call now))
    (h : r.Follows sc) (hP : P r.walk) (lines : List (String × Instant)) :
    (r.after lines).Follows sc ∧ P (r.after lines).walk := by
  -- Both are carried together, since `P` is kept only by calls of a play that follows its walk.
  induction lines generalizing r with
  | nil => exact ⟨h, hP⟩
  | cons l lines ih =>
    obtain ⟨hfollows, hwalk⟩ := h.read l.1 l.2
    refine ih hfollows ?_
    rcases hwalk with hwalk | ⟨choice, hoffers, hwalk⟩
    · rw [hwalk]
      exact hP
    · rw [hwalk]
      exact hcall r.play r.walk choice l.2 h hoffers hP

theorem Follows.follows_after (h : r.Follows sc) (lines : List (String × Instant)) :
    (r.after lines).Follows sc :=
  (h.after (P := fun _ => True) (fun _ _ _ _ _ _ _ => trivial) trivial lines).1

/-- Whatever the screen offers has a line that asks the session for it. -/
theorem Follows.exists_read (h : r.Follows sc) (hgoes : r.isOver = false) {choice : UserChoice}
    (hoffers : r.play.presenter.Offers choice) (hlt : r.play.presenter.choices.length < UInt64.size)
    (now : Instant) :
    ∃ line, (r.read line now).isOver = false ∧
      (r.read line now).walk = r.walk.call sc choice.call now := by
  obtain ⟨line, hline⟩ := Terminal.exists_line_of_offers hoffers hlt
  obtain ⟨hgoes', hwalk, -⟩ := h.read_choice hgoes (congrArg Prod.fst hline) now
  exact ⟨line, hgoes', hwalk⟩

/-- A play that has not been started opens on the start screen. -/
theorem follows_opening {c : Controller Terminal τ} (hactive : c.active = none)
    (hchoices : c.presenter.choices = []) (now : Instant) :
    (c.start now).1 = .ok () ∧ (opening c now).isOver = false ∧ (opening c now).Follows c.scenario := by
  have hprepare : c.perform .prepare = (.ok (), c) := Controller.perform_terminal c .prepare
  have hstart : c.start now =
      c.enterScene [.background c.scenario.config.defaultBackground] .splash := by
    have hscene : c.activeScene ≠ some SceneTarget.splash.id := by simp [Controller.activeScene, hactive]
    rw [Controller.start, hprepare, Reply.andThen_ok, Controller.switchTo, if_neg hscene,
      Controller.leave_of_inactive hactive, Reply.andThen_ok, Controller.enter, Controller.enterSplash_eq]
  rw [Controller.enterScene_terminal] at hstart
  rw [opening, hstart]
  refine ⟨rfl, rfl, ⟨rfl, rfl, ⟨rfl, ?_⟩, rfl, by simp⟩, Session.sums_fresh⟩
  exact hchoices

theorem follows_onTerminal (sc : Scenario) (assets : AssetManifest) (palette : Text.Palette) (store : τ)
    (ledger : Ledger) (now : Instant) :
    (opening (.onTerminal sc assets palette store ledger) now).isOver = false ∧
      (opening (.onTerminal sc assets palette store ledger) now).Follows sc :=
  (follows_opening (c := .onTerminal sc assets palette store ledger) rfl rfl now).2

end Reading

end VisualNovel
