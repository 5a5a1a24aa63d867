/-
  VisualNovel.Proofs.Scene.Operations

  Operations on a play, runs of them, and the rule by which properties of runs are
  proved.

  `Reply.Ensures` says what holds after a success and after a failure; `andThen`
  passes it on. An operation is made of a few moves: get ready, leave a scene,
  enter one, arrive at a passage. `Moves` lists what each of them has to do for an
  invariant. `Moves.operate` puts the moves together, through every branch and
  every failure, and `after_of_moves` goes on to whole runs.
-/

import VisualNovel.Proofs.Session
import VisualNovel.Scene.Controller

namespace VisualNovel

open Time (Instant)

/-! ## Replies -/

namespace Reply

variable {σ τ α β : Type}

/-- What holds of a play after an operation, by whether it succeeded. -/
def Ensures (r : Reply σ τ α) (ok : α → Controller σ τ → Prop)
    (failed : PlayError → Controller σ τ → Prop) : Prop :=
  match r with
  | (.ok a, c) => ok a c
  | (.error e, c) => failed e c

variable {ok : α → Controller σ τ → Prop} {ok' : β → Controller σ τ → Prop}
  {failed : PlayError → Controller σ τ → Prop}

theorem Ensures.andThen {r : Reply σ τ α} {next : α → Controller σ τ → Reply σ τ β}
    (h : r.Ensures ok failed) (hnext : ∀ a c, ok a c → (next a c).Ensures ok' failed) :
    (r.andThen next).Ensures ok' failed := by
  obtain ⟨result, c⟩ := r
  cases result with
  | ok a => exact hnext a c h
  | error e => exact h

theorem Ensures.mono {r : Reply σ τ α} {ok₂ : α → Controller σ τ → Prop}
    {failed₂ : PlayError → Controller σ τ → Prop} (h : r.Ensures ok failed)
    (hok : ∀ a c, ok a c → ok₂ a c) (hfailed : ∀ e c, failed e c → failed₂ e c) :
    r.Ensures ok₂ failed₂ := by
  obtain ⟨result, c⟩ := r
  cases result with
  | ok a => exact hok a c h
  | error e => exact hfailed e c h

theorem Ensures.of_error {r : Reply σ τ α} {e : PlayError} (h : r.Ensures ok failed)
    (he : r.1 = .error e) : failed e r.2 := by
  obtain ⟨result, c⟩ := r
  cases he
  exact h

/-- What holds after either result holds of the play afterwards. -/
theorem Ensures.snd {r : Reply σ τ α} {P : Controller σ τ → Prop}
    (h : r.Ensures (fun _ => P) (fun _ => P)) : P r.2 := by
  obtain ⟨result, c⟩ := r
  cases result with
  | ok a => exact h
  | error e => exact h

end Reply

/-! ## The moves of a play -/

/-- What is shown last of a scene that is left. -/
def Scene.farewell : Scene → List Display
  | .prompts _ => [.stopAnimation, .secondaryEffect false, .choices []]
  | _ => []

/-- What is shown of a step that stays in the prompts. -/
def Step.displays : Step → List Display
  | .frame f => f.displays
  | _ => []

namespace Controller

variable {σ τ : Type}

/-- A hydrated play has no active scene, and the ledger that its store hydrates to. -/
theorem eq_of_hydrate [LedgerStore τ] {sc : Scenario} {presenter : σ} {store : τ}
    {c : Controller σ τ} (h : hydrate sc presenter store = .ok c) :
    c.scenario = sc ∧ c.presenter = presenter ∧ c.store = store ∧ c.active = none ∧
      Ledger.hydrate sc.story store sc.config.ledgerKey = .ok c.ledger := by
  rw [hydrate] at h
  split at h
  · next l hl =>
    cases h
    exact ⟨rfl, rfl, rfl, rfl, hl⟩
  · cases h

section Presenting

variable [Presenter σ]

/-- Showing something changes the presentation and nothing else. -/
theorem displayAll_eq (c : Controller σ τ) (ds : List Display) :
    c.displayAll ds = { c with presenter := ds.foldl Presenter.display c.presenter } := by
  induction ds generalizing c with
  | nil => rfl
  | cons d ds ih =>
    have hcons : c.displayAll (d :: ds) = (c.display d).displayAll ds := rfl
    rw [hcons, ih]
    rfl

/-- A transition changes the presentation and nothing else, also when it is refused. -/
theorem perform_ensures {c : Controller σ τ} {t : Transition} {ok : Unit → Controller σ τ → Prop}
    {failed : PlayError → Controller σ τ → Prop}
    (hok : ∀ p, Presenter.perform c.presenter t = (.ok (), p) → ok () { c with presenter := p })
    (hfailed : ∀ e p, Presenter.perform c.presenter t = (.error e, p) →
      failed (.presentation e) { c with presenter := p }) :
    (c.perform t).Ensures ok failed := by
  rcases h : Presenter.perform c.presenter t with ⟨result, p⟩
  simp only [perform, h]
  cases result with
  | ok a => exact hok p h
  | error e => exact hfailed e p h

theorem leave_of_inactive {c : Controller σ τ} (h : c.active = none) : c.leave = (.ok (), c) := by
  simp only [leave, h]

/-- To leave a scene is to give it up, to clear the screen of it and to ask for the exit. -/
theorem leave_of_active {c : Controller σ τ} {scene : Scene} (h : c.active = some scene) :
    c.leave = (displayAll { c with active := none } scene.farewell).perform (.exit scene.id) := by
  -- Only the prompts have anything on the screen that is taken away.
  cases scene with
  | splash => simp only [leave, h]; rfl
  | prompts s => simp only [leave, h]; rfl
  | gameOver e => simp only [leave, h]; rfl

/-- Without an active scene there is nothing to leave; otherwise none is active afterwards. -/
theorem leave_ensures {c : Controller σ τ} {ok : Unit → Controller σ τ → Prop}
    {failed : PlayError → Controller σ τ → Prop} (hinactive : c.active = none → ok () c)
    (hok : ∀ scene p, c.active = some scene →
      Presenter.perform (scene.farewell.foldl Presenter.display c.presenter) (.exit scene.id) =
        (.ok (), p) → ok () { c with presenter := p, active := none })
    (hfailed : ∀ scene e p, c.active = some scene →
      Presenter.perform (scene.farewell.foldl Presenter.display c.presenter) (.exit scene.id) =
        (.error e, p) → failed (.presentation e) { c with presenter := p, active := none }) :
    c.leave.Ensures ok failed := by
  cases hactive : c.active with
  | none =>
    rw [leave_of_inactive hactive]
    exact hinactive hactive
  | some scene =>
    rw [leave_of_active hactive, displayAll_eq]
    apply perform_ensures
    · intro p hp
      exact hok scene p hactive hp
    · intro e p hp
      exact hfailed scene e p hactive hp

/-- Shows some things and enters a scene. -/
def enterScene (c : Controller σ τ) (ds : List Display) (scene : Scene) : Reply σ τ Unit :=
  ((c.displayAll ds).perform (.enter scene.id)).andThen
    fun _ c => (.ok (), { c with active := some scene })

theorem enterSplash_eq (c : Controller σ τ) :
    c.enterSplash = c.enterScene [.background c.scenario.config.defaultBackground] .splash := rfl

theorem enterGameOver_eq (c : Controller σ τ) (e : Ending) :
    c.enterGameOver e = c.enterScene (c.endingDisplays e) (.gameOver e) := rfl

/-- A scene is active once its entry is acknowledged. -/
theorem enterScene_ensures {c : Controller σ τ} {ds : List Display} {scene : Scene}
    {ok : Unit → Controller σ τ → Prop} {failed : PlayError → Controller σ τ → Prop}
    (hok : ∀ p, Presenter.perform (ds.foldl Presenter.display c.presenter) (.enter scene.id) =
      (.ok (), p) → ok () { c with presenter := p, active := some scene })
    (hfailed : ∀ e p, Presenter.perform (ds.foldl Presenter.display c.presenter) (.enter scene.id) =
      (.error e, p) → failed (.presentation e) { c with presenter := p }) :
    (c.enterScene ds scene).Ensures ok failed := by
  have hperform : ((c.displayAll ds).perform (.enter scene.id)).Ensures
      (fun _ c => ok () { c with active := some scene }) failed := by
    rw [displayAll_eq]
    apply perform_ensures
    · intro p hp
      exact hok p hp
    · intro e p hp
      exact hfailed e p hp
  exact hperform.andThen fun _ c hc => hc

end Presenting

section Playing

variable [Presenter σ] [LedgerStore τ]

/-- Outside endings a session stays in the prompts. -/
theorem present_of_staying {c : Controller σ τ} {a : Arrival} (h : ∀ e, a.step ≠ .ending e) :
    c.present a = (.ok .handled,
      displayAll { c with ledger := a.ledger, active := some (.prompts a.session) }
        a.step.displays) := by
  rw [present]
  cases hstep : a.step with
  | frame f => rfl
  | menu => rfl
  | ending e => exact absurd hstep (h e)

/-- An ending is stored before the prompts are left. -/
theorem present_of_ending {c : Controller σ τ} {a : Arrival} {e : Ending} (h : a.step = .ending e) :
    c.present a =
      (persist { c with ledger := a.ledger, active := some (.prompts a.session) }).leave.andThen
        fun _ c => (c.enterGameOver e).andThen fun _ c => (.ok .transitioned, c) := by
  simp only [present, h]

end Playing

end Controller

/-! ## Operations and runs -/

/-- What can be asked of a play. -/
inductive Operation
  | start
  | dispatch (choice : UserChoice)
  | switchTo (target : SceneTarget)
  deriving DecidableEq, Repr

namespace Controller

variable {σ τ : Type} [Presenter σ] [LedgerStore τ]

/-- Does what is asked; only a dispatch has more to answer than that it succeeded. -/
def operate (c : Controller σ τ) (op : Operation) (now : Instant) : Reply σ τ (Option Dispatch) :=
  match op with
  | .start => (c.start now).andThen fun _ c => (.ok none, c)
  | .dispatch choice => (c.dispatch choice now).andThen fun d c => (.ok (some d), c)
  | .switchTo target => (c.switchTo target now).andThen fun _ c => (.ok none, c)

/-- The play after some operations, each at an instant of its own, whatever they answered. -/
def after (c : Controller σ τ) (ops : List (Operation × Instant)) : Controller σ τ :=
  ops.foldl (fun c op => (c.operate op.1 op.2).2) c

@[simp] theorem after_nil (c : Controller σ τ) : c.after [] = c := rfl

@[simp] theorem after_cons (c : Controller σ τ) (op : Operation × Instant)
    (ops : List (Operation × Instant)) :
    c.after (op :: ops) = (c.operate op.1 op.2).2.after ops := rfl

theorem after_append (c : Controller σ τ) (ops ops' : List (Operation × Instant)) :
    c.after (ops ++ ops') = (c.after ops).after ops' :=
  List.foldl_append

theorem operate_dispatch (c : Controller σ τ) (choice : UserChoice) (now : Instant) :
    (c.operate (.dispatch choice) now).2 = (c.dispatch choice now).2 := by
  rw [operate]
  rcases c.dispatch choice now with ⟨answer, c'⟩
  cases answer with
  | ok d => rfl
  | error e => rfl

/-! ## The rule of operations -/

/--
What each move has to do for an invariant of the plays of a scenario while an operation runs.

* `idle` holds between operations,
* `leaving` is enough to leave the active scene,
* `vacant` holds once that is done,
* `arriving s` holds when the session `s` is about to arrive at a passage,
* `failed` holds when the operation ends with an error.
-/
structure Moves (sc : Scenario) (op : Operation) (now : Instant)
    (idle leaving vacant : Controller σ τ → Prop) (arriving : Session → Controller σ τ → Prop)
    (failed : PlayError → Controller σ τ → Prop) : Prop where
  scenario : ∀ c, idle c → c.scenario = sc
  prepare : ∀ c, idle c → (c.perform .prepare).Ensures (fun _ => idle) failed
  leaves : ∀ c, idle c → leaving c
  leave : ∀ c, leaving c → c.leave.Ensures (fun _ => vacant) failed
  enterScene : ∀ c ds scene, vacant c → (∀ s, scene ≠ .prompts s) →
    (c.enterScene ds scene).Ensures (fun _ => idle) failed
  enterPrompts : ∀ c, vacant c →
    (c.perform (.enter .prompts)).Ensures (fun _ c => c.scenario = sc ∧ arriving .fresh c) failed
  arrives : ∀ c s, idle c → c.active = some (.prompts s) → arriving s c
  /-- The session arrives at a passage that is no ending. -/
  stay : ∀ c s id p, arriving s c → c.scenario = sc → sc.story.get? id = some p → p.isEnding = false →
    ∀ ds, idle (displayAll { c with active := some (.prompts ⟨some p.id, s.tallyAt p⟩) } ds)
  /-- The session arrives at an ending, which is noted and stored. -/
  finish : ∀ c s id p o, arriving s c → c.scenario = sc → sc.story.get? id = some p →
    p.outcome = some o → o.category = .ending →
    leaving (persist { c with
      ledger := c.ledger.markReached p.name (some o.tag) now
      active := some (.prompts ⟨s.current, s.tallyAt p⟩) })
  /-- A choice is not followed. -/
  refuse : ∀ c s id e, op = .dispatch (.passage id) → idle c → c.active = some (.prompts s) →
    s.choose c.scenario c.ledger id now = .error e → failed (.session e) c

namespace Moves

variable {sc : Scenario} {op : Operation} {now : Instant} {idle leaving vacant : Controller σ τ → Prop}
  {arriving : Session → Controller σ τ → Prop} {failed : PlayError → Controller σ τ → Prop}

/-- A session that arrives at a passage stays in the prompts or leaves them for an ending. -/
theorem present_arrive (h : Moves sc op now idle leaving vacant arriving failed) {c : Controller σ τ}
    {s : Session} {id : PassageId} {p : Passage} (hc : arriving s c) (hsc : c.scenario = sc)
    (hp : sc.story.get? id = some p) :
    (c.present (s.arrive sc c.ledger p now)).Ensures (fun _ => idle) failed := by
  cases hend : p.isEnding with
  | false =>
    rw [Session.arrive_of_not_ending hend, present_of_staying (Scenario.stepOf_ne_ending hend)]
    exact h.stay c s id p hc hsc hp hend _
  | true =>
    obtain ⟨o, ho, hcat⟩ := Passage.isEnding_eq_true_iff.1 hend
    rw [Session.arrive_of_ending ho hcat, present_of_ending rfl]
    -- The ending is noted and stored; from here on every step may be refused.
    apply (h.leave _ (h.finish c s id p o hc hsc hp ho hcat)).andThen
    intro _ c hc
    rw [enterGameOver_eq]
    apply (h.enterScene c _ (.gameOver _) hc (by nofun)).andThen
    intro _ c hc
    exact hc

theorem enter (h : Moves sc op now idle leaving vacant arriving failed) {c : Controller σ τ}
    (hc : vacant c) (target : SceneTarget) : (c.enter target now).Ensures (fun _ => idle) failed := by
  cases target with
  | splash =>
    rw [Controller.enter, enterSplash_eq]
    exact h.enterScene c _ .splash hc (by nofun)
  | gameOver e =>
    rw [Controller.enter, enterGameOver_eq]
    exact h.enterScene c _ (.gameOver e) hc (by nofun)
  | prompts v =>
    apply (h.enterPrompts c hc).andThen
    rintro _ c ⟨hsc, hc⟩
    have hp := sc.story.get?_startOf v
    rw [hsc, Session.begin_eq]
    apply (h.present_arrive hc hsc hp).andThen
    intro _ c hc
    exact hc

theorem switchTo (h : Moves sc op now idle leaving vacant arriving failed) {c : Controller σ τ}
    (hc : idle c) (target : SceneTarget) : (c.switchTo target now).Ensures (fun _ => idle) failed := by
  rw [Controller.switchTo]
  split
  · exact hc
  · apply (h.leave c (h.leaves c hc)).andThen
    intro _ c hc
    exact h.enter hc target

theorem start (h : Moves sc op now idle leaving vacant arriving failed) {c : Controller σ τ}
    (hc : idle c) : (c.start now).Ensures (fun _ => idle) failed := by
  apply (h.prepare c hc).andThen
  intro _ c hc
  exact h.switchTo hc .splash

theorem dispatch (h : Moves sc op now idle leaving vacant arriving failed) {c : Controller σ τ}
    (hc : idle c) {choice : UserChoice} (hop : op = .dispatch choice) :
    (c.dispatch choice now).Ensures (fun _ => idle) failed := by
  have hswitch : ∀ target, ((c.switchTo target now).andThen fun _ c =>
      ((.ok .transitioned, c) : Reply σ τ Dispatch)).Ensures (fun _ => idle) failed := by
    intro target
    apply (h.switchTo hc target).andThen
    intro _ c hc
    exact hc
  -- A choice that the active scene does not expect leaves the play as it was.
  have hignored : Reply.Ensures ((.ok .ignored, c) : Reply σ τ Dispatch) (fun _ => idle) failed := hc
  simp only [Controller.dispatch]
  split
  case h_1 => exact hswitch _
  case h_2 s id hactive =>
    rcases s.choose_cases c.scenario c.ledger id now with ⟨-, he⟩ | ⟨-, -, he⟩ | ⟨-, p, hp, he⟩
    · rw [he]
      exact h.refuse c s id _ hop hc hactive he
    · rw [he]
      exact h.refuse c s id _ hop hc hactive he
    · rw [he]
      have hsc := h.scenario c hc
      rw [hsc] at hp ⊢
      exact h.present_arrive (h.arrives c s hc hactive) hsc hp
  case h_3 => exact hswitch _
  case h_4 => exact hignored

/-- **The rule of operations.** What every move keeps is kept by every operation. -/
theorem operate (h : Moves sc op now idle leaving vacant arriving failed) {c : Controller σ τ}
    (hc : idle c) : (c.operate op now).Ensures (fun _ => idle) failed := by
  cases op with
  | start =>
    apply (h.start hc).andThen
    intro _ c hc
    exact hc
  | dispatch choice =>
    apply (h.dispatch hc rfl).andThen
    intro _ c hc
    exact hc
  | switchTo target =>
    apply (h.switchTo hc target).andThen
    intro _ c hc
    exact hc

end Moves

/-- **The rule of runs.** What every operation keeps, also when it fails, is kept by every run. -/
theorem after_of_moves {sc : Scenario} {idle leaving vacant : Controller σ τ → Prop}
    {arriving : Session → Controller σ τ → Prop}
    {failed : Operation → PlayError → Controller σ τ → Prop}
    (h : ∀ op now, Moves sc op now idle leaving vacant arriving (failed op))
    (hfailed : ∀ op e c, failed op e c → idle c) {c : Controller σ τ} (hc : idle c)
    (ops : List (Operation × Instant)) : idle (c.after ops) := by
  induction ops generalizing c with
  | nil => exact hc
  | cons op ops ih =>
    -- The run goes on after an error, too, so both answers have to lead back to `idle`.
    have hop := (h op.1 op.2).operate hc
    rw [after_cons]
    exact ih (hop.mono (fun _ _ hc => hc) (hfailed op.1)).snd

/--
**The rule of records.** The ledger and the store change in one place only: where a session arrives
at an ending. What noting and storing an ending keeps of them is kept by every run.
-/
theorem after_of_records {sc : Scenario} {P : Ledger → τ → Prop}
    (hfinish : ∀ (l : Ledger) (s : τ) (p : Passage) (o : Outcome) (now : Instant), P l s →
      p ∈ sc.story.endings → p.outcome = some o →
      P (l.markReached p.name (some o.tag) now)
        ((l.markReached p.name (some o.tag) now).persist s sc.config.ledgerKey).2)
    {c : Controller σ τ} (hsc : c.scenario = sc) (hc : P c.ledger c.store)
    (ops : List (Operation × Instant)) : P (c.after ops).ledger (c.after ops).store := by
  have hmoves : ∀ (op : Operation) (now : Instant),
      Moves (σ := σ) sc op now (fun c => c.scenario = sc ∧ P c.ledger c.store)
        (fun c => c.scenario = sc ∧ P c.ledger c.store)
        (fun c => c.scenario = sc ∧ P c.ledger c.store)
        (fun _ c => c.scenario = sc ∧ P c.ledger c.store)
        (fun _ c => c.scenario = sc ∧ P c.ledger c.store) := by
    intro op now
    constructor
    case scenario => exact fun c hc => hc.1
    case prepare => exact fun c hc => perform_ensures (fun _ _ => hc) fun _ _ _ => hc
    case leaves => exact fun c hc => hc
    case leave => exact fun c hc => leave_ensures (fun _ => hc) (fun _ _ _ _ => hc) fun _ _ _ _ _ => hc
    case enterScene => exact fun c ds scene hc _ => enterScene_ensures (fun _ _ => hc) fun _ _ _ => hc
    case enterPrompts => exact fun c hc => perform_ensures (fun _ _ => ⟨hc.1, hc⟩) fun _ _ _ => hc
    case arrives => exact fun c s hc _ => hc
    case stay =>
      intro c s id p hc _ _ _ ds
      rw [displayAll_eq]
      exact hc
    case finish =>
      -- The one move that changes the ledger and the store.
      rintro c s id p o ⟨hsc, hc⟩ - hp ho hcat
      have hmem : p ∈ sc.story.endings :=
        List.mem_filter.2 ⟨Story.mem_passages_of_get? hp, Passage.isEnding_eq_true_iff.2 ⟨o, ho, hcat⟩⟩
      subst hsc
      exact ⟨rfl, hfinish c.ledger c.store p o now hc hmem ho⟩
    case refuse => exact fun c s id e _ hc _ _ => hc
  exact (after_of_moves hmoves (fun _ _ _ hc => hc) ⟨hsc, hc⟩ ops).2

end Controller

/-! ## A brief story -/

/-- A passage with one choice, which leads to an ending; the other start is the ending itself. -/
def Story.brief : Story where
  passages := [
    { id := 1, name := "Crossroads", text := "Which way?", tags := .empty,
      links := [⟨"Home", "Home", 2⟩] },
    { id := 2, name := "Home", text := "Safe and sound.", tags := .ofNames ["Good-End"], links := [] }]
  start := 1
  altStart := 2
  isDense := by decide
  start_isId := by decide
  altStart_isId := by decide
  link_isId := by decide

def Scenario.brief : Scenario where
  story := .brief
  assets := ⟨.empty, .empty⟩
  config := {}

/-- A play of the brief story that has not been started. -/
def Controller.brief {σ τ : Type} (presenter : σ) (store : τ) : Controller σ τ where
  scenario := .brief
  presenter
  store
  ledger := .ofStory .brief

/-- A reader who starts, chooses the way home, and then plays again from the other start. -/
def Operation.brief : List (Operation × Instant) :=
  let now : Instant := ⟨⟨2024, 2, 29, by decide⟩, 43200, 0, by decide⟩
  [.start, .dispatch (.start .default), .dispatch (.passage 2), .dispatch .restart,
    .switchTo (.prompts .alt)].map fun op => (op, now)

end VisualNovel
