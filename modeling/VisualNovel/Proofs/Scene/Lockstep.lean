/-
  VisualNovel.Proofs.Scene.Lockstep

  Two plays of one scenario side by side, each with a presentation, a store and a
  ledger of its own. `Lockstep` lists what the presentations and the records have
  to do for the plays to stay alike; the control of a play looks at nothing else.
  So both give the same answer to every operation (`Lockstep.operate`), and go on
  so over whole runs (`alike_after`). In particular a play goes on in the same way
  when its presentation is watched (`after_watched`).
-/

import VisualNovel.Proofs.Scene.Operations
import VisualNovel.Proofs.Stage.Watched

namespace VisualNovel

open Time (Instant)

variable {σ₁ σ₂ τ₁ τ₂ α β : Type}

/-! ## Pairs of replies -/

/-- The two answers are the same, and the plays after them are related. -/
structure Reply.Agree (R : Controller σ₁ τ₁ → Controller σ₂ τ₂ → Prop) (r₁ : Reply σ₁ τ₁ α)
    (r₂ : Reply σ₂ τ₂ α) : Prop where
  answer_eq : r₁.1 = r₂.1
  related : R r₁.2 r₂.2

theorem Reply.Agree.andThen {R : Controller σ₁ τ₁ → Controller σ₂ τ₂ → Prop} {r₁ : Reply σ₁ τ₁ α}
    {r₂ : Reply σ₂ τ₂ α} {next₁ : α → Controller σ₁ τ₁ → Reply σ₁ τ₁ β}
    {next₂ : α → Controller σ₂ τ₂ → Reply σ₂ τ₂ β} (h : r₁.Agree R r₂)
    (hnext : ∀ a c₁ c₂, R c₁ c₂ → (next₁ a c₁).Agree R (next₂ a c₂)) :
    (r₁.andThen next₁).Agree R (r₂.andThen next₂) := by
  obtain ⟨answer₁, c₁⟩ := r₁
  obtain ⟨answer₂, c₂⟩ := r₂
  obtain ⟨hanswer, hrelated⟩ := h
  cases hanswer
  cases answer₁ with
  | ok a => exact hnext a c₁ c₂ hrelated
  | error e => exact ⟨rfl, hrelated⟩

/-! ## Pairs of plays -/

/-- An operation that is asked of two plays, of each at an instant of its own clock. -/
structure JointOperation where
  operation : Operation
  now₁ : Instant
  now₂ : Instant

/-- What is asked of the first play. -/
def JointOperation.first (op : JointOperation) : Operation × Instant :=
  (op.operation, op.now₁)

/-- What is asked of the second play. -/
def JointOperation.second (op : JointOperation) : Operation × Instant :=
  (op.operation, op.now₂)

/-- Two plays are asked the same by one clock. -/
def JointOperation.shared (op : Operation × Instant) : JointOperation :=
  ⟨op.1, op.2, op.2⟩

@[simp] theorem JointOperation.map_first_shared (ops : List (Operation × Instant)) :
    (ops.map shared).map first = ops := by
  rw [List.map_map]
  exact List.map_id ops

@[simp] theorem JointOperation.map_second_shared (ops : List (Operation × Instant)) :
    (ops.map shared).map second = ops := by
  rw [List.map_map]
  exact List.map_id ops

namespace Controller

/--
Two plays of a scenario that are at the same point: the same scene is active, with the same session
or ending, the presentations are related by `P`, and the ledgers and stores by `K`.
-/
structure Alike (sc : Scenario) (P : σ₁ → σ₂ → Prop) (K : Ledger → τ₁ → Ledger → τ₂ → Prop)
    (c₁ : Controller σ₁ τ₁) (c₂ : Controller σ₂ τ₂) : Prop where
  scenario₁ : c₁.scenario = sc
  scenario₂ : c₂.scenario = sc
  active_eq : c₁.active = c₂.active
  presenters : P c₁.presenter c₂.presenter
  records : K c₁.ledger c₁.store c₂.ledger c₂.store

namespace Alike

variable {sc : Scenario} {P : σ₁ → σ₂ → Prop} {K : Ledger → τ₁ → Ledger → τ₂ → Prop}
  {c₁ : Controller σ₁ τ₁} {c₂ : Controller σ₂ τ₂}

theorem present (h : Alike sc P K c₁ c₂) {p : σ₁} {q : σ₂} (hpq : P p q) :
    Alike sc P K { c₁ with presenter := p } { c₂ with presenter := q } :=
  ⟨h.scenario₁, h.scenario₂, h.active_eq, hpq, h.records⟩

theorem activate (h : Alike sc P K c₁ c₂) (active : Option Scene) :
    Alike sc P K { c₁ with active } { c₂ with active } :=
  ⟨h.scenario₁, h.scenario₂, rfl, h.presenters, h.records⟩

end Alike

variable [Presenter σ₁] [Presenter σ₂]

/-- The answers to some operations, each at an instant of its own. -/
def answers [LedgerStore τ₁] (c : Controller σ₁ τ₁) :
    List (Operation × Instant) → List (Except PlayError (Option Dispatch))
  | [] => []
  | op :: ops => (c.operate op.1 op.2).1 :: answers (c.operate op.1 op.2).2 ops

variable [LedgerStore τ₁] [LedgerStore τ₂]

/-- What related presentations and records have to do while an operation runs, each by its clock. -/
structure Lockstep (sc : Scenario) (now₁ now₂ : Instant) (P : σ₁ → σ₂ → Prop)
    (K : Ledger → τ₁ → Ledger → τ₂ → Prop) : Prop where
  display : ∀ p q d, P p q → P (Presenter.display p d) (Presenter.display q d)
  perform : ∀ p q t, P p q → (Presenter.perform p t).1 = (Presenter.perform q t).1 ∧
    P (Presenter.perform p t).2 (Presenter.perform q t).2
  /-- The one thing shown that is taken from the ledger. -/
  progress : ∀ p q l s m u, P p q → K l s m u →
    P (Presenter.display p (.endingsProgress l.reachedCount l.total))
      (Presenter.display q (.endingsProgress m.reachedCount m.total))
  /-- An ending is noted and stored. -/
  finish : ∀ l s m u name outcome, K l s m u →
    K (l.markReached name outcome now₁)
      ((l.markReached name outcome now₁).persist s sc.config.ledgerKey).2
      (m.markReached name outcome now₂)
      ((m.markReached name outcome now₂).persist u sc.config.ledgerKey).2

namespace Lockstep

variable {sc : Scenario} {now₁ now₂ : Instant} {P : σ₁ → σ₂ → Prop}
  {K : Ledger → τ₁ → Ledger → τ₂ → Prop} {c₁ : Controller σ₁ τ₁} {c₂ : Controller σ₂ τ₂}

/-! ## Presenting -/

theorem alike_display (h : Lockstep sc now₁ now₂ P K) (hc : Alike sc P K c₁ c₂) (d : Display) :
    Alike sc P K (c₁.display d) (c₂.display d) :=
  hc.present (h.display _ _ d hc.presenters)

theorem alike_displayAll (h : Lockstep sc now₁ now₂ P K) (hc : Alike sc P K c₁ c₂)
    (ds : List Display) : Alike sc P K (c₁.displayAll ds) (c₂.displayAll ds) := by
  induction ds generalizing c₁ c₂ with
  | nil => exact hc
  | cons d ds ih => exact ih (h.alike_display hc d)

/-- The screens of an ending differ in nothing but the progress that they show. -/
theorem alike_endingDisplays (h : Lockstep sc now₁ now₂ P K) (hc : Alike sc P K c₁ c₂) (e : Ending) :
    Alike sc P K (c₁.displayAll (c₁.endingDisplays e)) (c₂.displayAll (c₂.endingDisplays e)) := by
  have hopening := h.alike_displayAll hc [.background (sc.endingBackground e), .endingText e.text]
  have hprogress := hopening.present (h.progress _ _ _ _ _ _ hopening.presenters hc.records)
  have hclosing := h.alike_display hprogress (.choices [])
  rw [endingDisplays, endingDisplays, hc.scenario₁, hc.scenario₂]
  exact hclosing

theorem agree_perform (h : Lockstep sc now₁ now₂ P K) (hc : Alike sc P K c₁ c₂) (t : Transition) :
    (c₁.perform t).Agree (Alike sc P K) (c₂.perform t) := by
  obtain ⟨hanswer, hpresenters⟩ := h.perform _ _ t hc.presenters
  constructor
  · show (Presenter.perform c₁.presenter t).1.mapError _ = (Presenter.perform c₂.presenter t).1.mapError _
    rw [hanswer]
  · exact hc.present hpresenters

/-! ## Leaving and entering scenes -/

theorem agree_leave (h : Lockstep sc now₁ now₂ P K) (hc : Alike sc P K c₁ c₂) :
    c₁.leave.Agree (Alike sc P K) c₂.leave := by
  cases hactive : c₁.active with
  | none =>
    rw [leave_of_inactive hactive, leave_of_inactive (hc.active_eq.symm.trans hactive)]
    exact ⟨rfl, hc⟩
  | some scene =>
    rw [leave_of_active hactive, leave_of_active (hc.active_eq.symm.trans hactive)]
    -- The scene is given up in both plays before either presentation can refuse the exit.
    have hgiven := h.alike_displayAll (hc.activate none) scene.farewell
    exact h.agree_perform hgiven (.exit scene.id)

/-- A scene becomes active in both plays, or in neither. -/
theorem agree_enter (h : Lockstep sc now₁ now₂ P K) (hc : Alike sc P K c₁ c₂) (scene : Scene) :
    Reply.Agree (Alike sc P K)
      ((c₁.perform (.enter scene.id)).andThen fun _ c =>
        ((.ok (), { c with active := some scene }) : Reply σ₁ τ₁ Unit))
      ((c₂.perform (.enter scene.id)).andThen fun _ c =>
        ((.ok (), { c with active := some scene }) : Reply σ₂ τ₂ Unit)) := by
  apply (h.agree_perform hc (.enter scene.id)).andThen
  intro _ c₁ c₂ hc
  exact ⟨rfl, hc.activate (some scene)⟩

theorem agree_enterSplash (h : Lockstep sc now₁ now₂ P K) (hc : Alike sc P K c₁ c₂) :
    c₁.enterSplash.Agree (Alike sc P K) c₂.enterSplash := by
  rw [enterSplash_eq, enterSplash_eq, hc.scenario₁, hc.scenario₂]
  exact h.agree_enter (h.alike_displayAll hc _) .splash

theorem agree_enterGameOver (h : Lockstep sc now₁ now₂ P K) (hc : Alike sc P K c₁ c₂) (e : Ending) :
    (c₁.enterGameOver e).Agree (Alike sc P K) (c₂.enterGameOver e) := by
  rw [enterGameOver_eq, enterGameOver_eq]
  exact h.agree_enter (h.alike_endingDisplays hc e) (.gameOver e)

/-! ## Arriving -/

/-- Both plays note an ending and store it, each in a ledger and a store of its own. -/
theorem alike_finish (h : Lockstep sc now₁ now₂ P K) (hc : Alike sc P K c₁ c₂) (name : String)
    (outcome : Option String) (active : Option Scene) :
    Alike sc P K (persist { c₁ with ledger := c₁.ledger.markReached name outcome now₁, active })
      (persist { c₂ with ledger := c₂.ledger.markReached name outcome now₂, active }) := by
  refine ⟨hc.scenario₁, hc.scenario₂, rfl, hc.presenters, ?_⟩
  simp only [persist, hc.scenario₁, hc.scenario₂]
  exact h.finish _ _ _ _ name outcome hc.records

/-- Whatever the ledgers know, the sessions arrive at the same step. -/
theorem agree_present (h : Lockstep sc now₁ now₂ P K) (hc : Alike sc P K c₁ c₂) (s : Session)
    (p : Passage) :
    (c₁.present (s.arrive sc c₁.ledger p now₁)).Agree (Alike sc P K)
      (c₂.present (s.arrive sc c₂.ledger p now₂)) := by
  cases hend : p.isEnding with
  | false =>
    rw [Session.arrive_of_not_ending hend, Session.arrive_of_not_ending hend,
      present_of_staying (Scenario.stepOf_ne_ending hend),
      present_of_staying (Scenario.stepOf_ne_ending hend)]
    exact ⟨rfl, h.alike_displayAll (hc.activate _) _⟩
  | true =>
    obtain ⟨o, ho, hcat⟩ := Passage.isEnding_eq_true_iff.1 hend
    rw [Session.arrive_of_ending ho hcat, Session.arrive_of_ending ho hcat, present_of_ending rfl,
      present_of_ending rfl]
    -- From here on the ledgers are not looked at, except for the progress on the last screen.
    apply (h.agree_leave (h.alike_finish hc p.name (some o.tag) _)).andThen
    intro _ c₁ c₂ hc
    apply (h.agree_enterGameOver hc (sc.ending p o)).andThen
    intro _ c₁ c₂ hc
    exact ⟨rfl, hc⟩

theorem agree_enterPrompts (h : Lockstep sc now₁ now₂ P K) (hc : Alike sc P K c₁ c₂)
    (v : StartVariant) :
    (c₁.enterPrompts v now₁).Agree (Alike sc P K) (c₂.enterPrompts v now₂) := by
  apply (h.agree_perform hc (.enter .prompts)).andThen
  intro _ c₁ c₂ hc
  rw [hc.scenario₁, hc.scenario₂, Session.begin_eq, Session.begin_eq]
  apply (h.agree_present hc .fresh (sc.story.startPassage v)).andThen
  intro _ c₁ c₂ hc
  exact ⟨rfl, hc⟩

/-! ## Operations -/

theorem agree_switchTo (h : Lockstep sc now₁ now₂ P K) (hc : Alike sc P K c₁ c₂)
    (target : SceneTarget) :
    (c₁.switchTo target now₁).Agree (Alike sc P K) (c₂.switchTo target now₂) := by
  rw [switchTo, switchTo, activeScene, activeScene, hc.active_eq]
  split
  · exact ⟨rfl, hc⟩
  · apply (h.agree_leave hc).andThen
    intro _ c₁ c₂ hc
    cases target with
    | splash => exact h.agree_enterSplash hc
    | prompts v => exact h.agree_enterPrompts hc v
    | gameOver e => exact h.agree_enterGameOver hc e

theorem agree_start (h : Lockstep sc now₁ now₂ P K) (hc : Alike sc P K c₁ c₂) :
    (c₁.start now₁).Agree (Alike sc P K) (c₂.start now₂) := by
  apply (h.agree_perform hc .prepare).andThen
  intro _ c₁ c₂ hc
  exact h.agree_switchTo hc .splash

theorem agree_dispatch (h : Lockstep sc now₁ now₂ P K) (hc : Alike sc P K c₁ c₂)
    (choice : UserChoice) :
    (c₁.dispatch choice now₁).Agree (Alike sc P K) (c₂.dispatch choice now₂) := by
  have hswitch : ∀ target, Reply.Agree (Alike sc P K)
      ((c₁.switchTo target now₁).andThen fun _ c => ((.ok .transitioned, c) : Reply σ₁ τ₁ Dispatch))
      ((c₂.switchTo target now₂).andThen fun _ c => ((.ok .transitioned, c) : Reply σ₂ τ₂ Dispatch)) := by
    intro target
    apply (h.agree_switchTo hc target).andThen
    intro _ c₁ c₂ hc
    exact ⟨rfl, hc⟩
  have hactive := hc.active_eq
  simp only [dispatch, ← hactive]
  split
  case h_1 => exact hswitch _
  case h_2 s id _ =>
    rw [hc.scenario₁, hc.scenario₂, Session.choose, Session.choose]
    -- Whether a choice is followed is up to the session and the story.
    by_cases hcurrent : s.current = none
    · rw [if_pos hcurrent, if_pos hcurrent]
      exact ⟨rfl, hc⟩
    rw [if_neg hcurrent, if_neg hcurrent]
    cases sc.story.get id with
    | error e => exact ⟨rfl, hc⟩
    | ok p => exact h.agree_present hc s p
  case h_3 => exact hswitch _
  case h_4 => exact ⟨rfl, hc⟩

/-- **Alike plays answer alike** and are alike afterwards, whatever is asked. -/
theorem operate (h : Lockstep sc now₁ now₂ P K) (hc : Alike sc P K c₁ c₂) (op : Operation) :
    (c₁.operate op now₁).Agree (Alike sc P K) (c₂.operate op now₂) := by
  cases op with
  | start =>
    apply (h.agree_start hc).andThen
    intro _ c₁ c₂ hc
    exact ⟨rfl, hc⟩
  | dispatch choice =>
    apply (h.agree_dispatch hc choice).andThen
    intro _ c₁ c₂ hc
    exact ⟨rfl, hc⟩
  | switchTo target =>
    apply (h.agree_switchTo hc target).andThen
    intro _ c₁ c₂ hc
    exact ⟨rfl, hc⟩

end Lockstep

/-! ## Runs -/

/-- **Alike plays go through whole runs alike**, each by its clock. -/
theorem alike_after {sc : Scenario} {P : σ₁ → σ₂ → Prop} {K : Ledger → τ₁ → Ledger → τ₂ → Prop}
    {ops : List JointOperation} (h : ∀ op ∈ ops, Lockstep sc op.now₁ op.now₂ P K)
    {c₁ : Controller σ₁ τ₁} {c₂ : Controller σ₂ τ₂} (hc : Alike sc P K c₁ c₂) :
    c₁.answers (ops.map JointOperation.first) = c₂.answers (ops.map JointOperation.second) ∧
      Alike sc P K (c₁.after (ops.map JointOperation.first))
        (c₂.after (ops.map JointOperation.second)) := by
  induction ops generalizing c₁ c₂ with
  | nil => exact ⟨rfl, hc⟩
  | cons op ops ih =>
    rw [List.forall_mem_cons] at h
    obtain ⟨hanswer, hnext⟩ := h.1.operate hc op.operation
    obtain ⟨hanswers, hafter⟩ := ih h.2 hnext
    refine ⟨?_, hafter⟩
    show (c₁.operate op.operation op.now₁).1 :: _ = (c₂.operate op.operation op.now₂).1 :: _
    rw [hanswer]
    exact congrArg _ hanswers

/-! ## Plays that are watched -/

section Watching

variable {σ τ γ : Type} {sc : Scenario} {note : γ → Directive → γ}
  {I : γ → Prop}

/-- The play with someone who watches its presentation. -/
def watched (c : Controller σ τ) (note : γ → Directive → γ) (notes : γ) : Controller (Watched σ γ) τ :=
  { c with presenter := ⟨c.presenter, note, notes⟩ }

/-- The play by itself. -/
def unwatched (c : Controller (Watched σ γ) τ) : Controller σ τ :=
  { c with presenter := c.presenter.inner }

/-- The presentation is the one that is watched; `I` holds of the notes. -/
structure Watches (note : γ → Directive → γ) (I : γ → Prop) (w : Watched σ γ) (p : σ) : Prop where
  inner_eq : w.inner = p
  note_eq : w.note = note
  notes : I w.notes

/-- The ledgers are the same, and so are the stores. -/
def SameRecords (l : Ledger) (s : τ) (m : Ledger) (u : τ) : Prop :=
  l = m ∧ s = u

theorem Alike.unwatched_eq {c : Controller (Watched σ γ) τ} {d : Controller σ τ}
    (h : Alike sc (Watches note I) SameRecords c d) : c.unwatched = d := by
  obtain ⟨scenario, presenter, store, ledger, active⟩ := c
  obtain ⟨hc, hd, hactive, ⟨hinner, -, -⟩, hledger, hstore⟩ := h
  cases d
  cases hc
  cases hd
  cases hactive
  cases hinner
  cases hledger
  cases hstore
  rfl

theorem alike_unwatched {c : Controller (Watched σ γ) τ} (hnote : c.presenter.note = note)
    (hI : I c.presenter.notes) : Alike c.scenario (Watches note I) SameRecords c c.unwatched :=
  ⟨rfl, rfl, rfl, ⟨rfl, hnote, hI⟩, rfl, rfl⟩

variable [Presenter σ] [LedgerStore τ]

theorem lockstep_watched (sc : Scenario) (now : Instant) (hI : ∀ n d, I n → I (note n d)) :
    Lockstep sc now now (Watches (σ := σ) note I) (SameRecords (τ := τ)) where
  display := by
    rintro w _ d ⟨rfl, rfl, hw⟩
    exact ⟨rfl, rfl, hI _ _ hw⟩
  perform := by
    rintro w _ t ⟨rfl, rfl, hw⟩
    exact ⟨rfl, rfl, rfl, hI _ _ hw⟩
  progress := by
    rintro w _ l s _ _ ⟨rfl, rfl, hw⟩ ⟨rfl, rfl⟩
    exact ⟨rfl, rfl, hI _ _ hw⟩
  finish := by
    rintro l s _ _ name outcome ⟨rfl, rfl⟩
    exact ⟨rfl, rfl⟩

/-- Whatever is noted, a play that is watched keeps step with the play by itself. -/
theorem lockstep_unwatched (sc : Scenario) (now : Instant) :
    Lockstep sc now now (Watches (σ := σ) note fun _ => True) (SameRecords (τ := τ)) :=
  lockstep_watched sc now fun _ _ h => h

/-- **To be watched changes nothing.** The play answers and goes on as it does by itself. -/
theorem after_watched (c : Controller σ τ) (note : γ → Directive → γ) (notes : γ)
    (ops : List (Operation × Instant)) :
    (c.watched note notes).answers ops = c.answers ops ∧
      ((c.watched note notes).after ops).unwatched = c.after ops := by
  have hlockstep : ∀ op ∈ ops.map JointOperation.shared, Lockstep c.scenario op.now₁ op.now₂
      (Watches (σ := σ) note fun _ => True) (SameRecords (τ := τ)) := by
    intro op hop
    obtain ⟨op, -, rfl⟩ := List.mem_map.1 hop
    exact lockstep_unwatched c.scenario op.2
  have hbegin : Alike c.scenario (Watches note fun _ => True) SameRecords (c.watched note notes) c :=
    alike_unwatched (c := c.watched note notes) rfl trivial
  obtain ⟨hanswers, hafter⟩ := alike_after hlockstep hbegin
  rw [JointOperation.map_first_shared, JointOperation.map_second_shared] at hanswers hafter
  exact ⟨hanswers, hafter.unwatched_eq⟩

end Watching

end Controller

end VisualNovel
