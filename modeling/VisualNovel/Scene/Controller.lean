/-
  VisualNovel.Scene.Controller

  The controller of a play. At most one scene is active. To go to another scene
  the active one is left first; the next one becomes active once the presentation
  has acknowledged it. When a transition is refused no scene is active. A start
  that is an ending leads from the prompts straight on to the game-over screen.

  The ledger is stored right after an ending is noted, before anything that can
  fail. A failure of the store does not stop the play.
-/

import VisualNovel.Scene.Basic

namespace VisualNovel

open Time (Instant)

/-- A play: its scenario, presentation, store and ledger, and the active scene. -/
structure Controller (σ τ : Type) where
  scenario : Scenario
  presenter : σ
  store : τ
  ledger : Ledger
  active : Option Scene := none

/-- What a frame shows. -/
def Frame.displays (f : Frame) : List Display :=
  [.background f.background, .animation f.animation.animation,
    .secondaryEffect f.animation.secondaryEffect, .prompt f.prompt, .choices f.choices]

/-- The answer of an operation, with the controller after it. -/
abbrev Reply (σ τ α : Type) := Except PlayError α × Controller σ τ

/-- Goes on after an operation that succeeded. -/
def Reply.andThen {σ τ α β : Type} (r : Reply σ τ α) (next : α → Controller σ τ → Reply σ τ β) :
    Reply σ τ β :=
  match r with
  | (.ok a, c) => next a c
  | (.error e, c) => (.error e, c)

namespace Reply

variable {σ τ : Type}

@[simp] theorem andThen_ok {α β : Type} (a : α) (c : Controller σ τ)
    (next : α → Controller σ τ → Reply σ τ β) :
    andThen (.ok a, c) next = next a c := rfl

@[simp] theorem andThen_error {α β : Type} (e : PlayError) (c : Controller σ τ)
    (next : α → Controller σ τ → Reply σ τ β) :
    andThen (.error e, c) next = (.error e, c) := rfl

end Reply

namespace Controller

variable {σ τ : Type}

/-- The active scene's id. -/
def activeScene (c : Controller σ τ) : Option SceneId :=
  c.active.map Scene.id

/-- The live session, while the prompts are active. -/
def session (c : Controller σ τ) : Option Session :=
  match c.active with
  | some (.prompts s) => some s
  | _ => none

/-- A play whose ledger is loaded from the store. -/
def hydrate [LedgerStore τ] (scenario : Scenario) (presenter : σ) (store : τ) :
    Except PlayError (Controller σ τ) :=
  match Ledger.hydrate scenario.story store scenario.config.ledgerKey with
  | .ok ledger => .ok { scenario, presenter, store, ledger }
  | .error e => .error (.ledger e)

/-! ## Presenting -/

section Presenting

variable [Presenter σ]

/-- Shows something. -/
def display (c : Controller σ τ) (d : Display) : Controller σ τ :=
  { c with presenter := Presenter.display c.presenter d }

/-- Shows some things in order. -/
def displayAll (c : Controller σ τ) (ds : List Display) : Controller σ τ :=
  ds.foldl display c

/-- Asks for a transition. -/
def perform (c : Controller σ τ) (t : Transition) : Reply σ τ Unit :=
  let (result, presenter) := Presenter.perform c.presenter t
  (result.mapError .presentation, { c with presenter })

/-- Leaves the active scene, if there is one. -/
def leave (c : Controller σ τ) : Reply σ τ Unit :=
  -- The scene is given up before the transition, so a refusal leaves none active.
  let inactive := { c with active := none }
  match c.active with
  | none => (.ok (), c)
  | some (.prompts _) =>
    (inactive.displayAll [.stopAnimation, .secondaryEffect false, .choices []]).perform (.exit .prompts)
  | some scene => inactive.perform (.exit scene.id)

/-- Enters the start screen. -/
def enterSplash (c : Controller σ τ) : Reply σ τ Unit :=
  ((c.display (.background c.scenario.config.defaultBackground)).perform (.enter .splash)).andThen
    fun _ c => (.ok (), { c with active := some .splash })

/-- What the screen of an ending shows. -/
def endingDisplays (c : Controller σ τ) (e : Ending) : List Display :=
  [.background (c.scenario.endingBackground e), .endingText e.text,
    .endingsProgress c.ledger.reachedCount c.ledger.total, .choices []]

/-- Enters the screen of an ending. -/
def enterGameOver (c : Controller σ τ) (e : Ending) : Reply σ τ Unit :=
  ((c.displayAll (c.endingDisplays e)).perform (.enter .gameOver)).andThen
    fun _ c => (.ok (), { c with active := some (.gameOver e) })

end Presenting

/-! ## Playing -/

/-- Stores the ledger; a failure is left at that. -/
def persist [LedgerStore τ] (c : Controller σ τ) : Controller σ τ :=
  { c with store := (c.ledger.persist c.store c.scenario.config.ledgerKey).2 }

section Playing

variable [Presenter σ] [LedgerStore τ]

/-- Presents what the live session arrived at; an ending leads on to its screen. -/
def present (c : Controller σ τ) (a : Arrival) : Reply σ τ Dispatch :=
  let c := { c with ledger := a.ledger, active := some (.prompts a.session) }
  match a.step with
  | .frame f => (.ok .handled, c.displayAll f.displays)
  | .menu => (.ok .handled, c)
  -- What was reached is stored before a refused transition can end the play.
  | .ending e =>
    c.persist.leave.andThen fun _ c => (c.enterGameOver e).andThen fun _ c => (.ok .transitioned, c)

/-- Enters the prompts with a new session. -/
def enterPrompts (c : Controller σ τ) (v : StartVariant) (now : Instant) : Reply σ τ Unit :=
  (c.perform (.enter .prompts)).andThen fun _ c =>
    (c.present (Session.begin c.scenario v c.ledger now)).andThen fun _ c => (.ok (), c)

/-- Enters a scene. -/
def enter (c : Controller σ τ) (target : SceneTarget) (now : Instant) : Reply σ τ Unit :=
  match target with
  | .splash => c.enterSplash
  | .prompts v => c.enterPrompts v now
  | .gameOver e => c.enterGameOver e

/-- Goes to a scene; nothing happens if that scene is active already. -/
def switchTo (c : Controller σ τ) (target : SceneTarget) (now : Instant) : Reply σ τ Unit :=
  if c.activeScene = some target.id then (.ok (), c)
  else c.leave.andThen fun _ c => c.enter target now

/-- Prepares the presentation and goes to the start screen. -/
def start (c : Controller σ τ) (now : Instant) : Reply σ τ Unit :=
  (c.perform .prepare).andThen fun _ c => c.switchTo .splash now

/-- Gives a choice to the active scene. -/
def dispatch (c : Controller σ τ) (choice : UserChoice) (now : Instant) : Reply σ τ Dispatch :=
  match c.active, choice with
  | some .splash, .start v =>
    (c.switchTo (.prompts v) now).andThen fun _ c => (.ok .transitioned, c)
  | some (.prompts s), .passage id =>
    -- A choice that is not followed leaves the prompts as they are.
    match s.choose c.scenario c.ledger id now with
    | .error e => (.error (.session e), c)
    | .ok a => c.present a
  | some (.gameOver _), .restart =>
    (c.switchTo (.prompts .default) now).andThen fun _ c => (.ok .transitioned, c)
  -- A choice meant for another scene, such as one that arrived late.
  | _, _ => (.ok .ignored, c)

end Playing

end Controller

end VisualNovel
