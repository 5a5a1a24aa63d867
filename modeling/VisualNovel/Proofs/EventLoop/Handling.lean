/-
  VisualNovel.Proofs.EventLoop.Handling

  Events that are handled one after another. An event that is a choice is
  dispatched and any other changes no more than the presentation (`handle_cases`).
  A loop handles the events that it interprets and no others (`handled_run`). A
  play can be watched while it handles events: to the play this makes no
  difference (`handleEach_unwatched`).
-/

import VisualNovel.EventLoop
import VisualNovel.Proofs.Scene.Lockstep

namespace VisualNovel

open Time (Instant)

/-- Interprets an event by the presentation that is watched; what changes there is not noted. -/
def Watched.reads {σ γ ε : Type} (interpret : σ → ε → Input × σ) (w : Watched σ γ) (event : ε) :
    Input × Watched σ γ :=
  ((interpret w.inner event).1, { w with inner := (interpret w.inner event).2 })

/-! ## One event after another -/

namespace Controller

variable {σ τ ε : Type}

/-- The play once an event was interpreted. -/
def reading (interpret : σ → ε → Input × σ) (c : Controller σ τ) (event : ε) : Controller σ τ :=
  { c with presenter := (interpret c.presenter event).2 }

variable [Presenter σ] [LedgerStore τ]

/-- The play after some events were handled. -/
def handleEach (interpret : σ → ε → Input × σ) (now : Instant) (c : Controller σ τ) (events : List ε) :
    Controller σ τ :=
  events.foldl (fun c event => (c.handle interpret event now).2) c

theorem handleEach_cons (interpret : σ → ε → Input × σ) (now : Instant) (c : Controller σ τ) (event : ε)
    (events : List ε) :
    c.handleEach interpret now (event :: events) =
      (c.handle interpret event now).2.handleEach interpret now events := rfl

theorem handleEach_append (interpret : σ → ε → Input × σ) (now : Instant) (c : Controller σ τ)
    (events events' : List ε) :
    c.handleEach interpret now (events ++ events') =
      (c.handleEach interpret now events).handleEach interpret now events' :=
  List.foldl_append

/-- An event that is no choice changes nothing but the presentation. -/
theorem handle_cases (interpret : σ → ε → Input × σ) (c : Controller σ τ) (event : ε) (now : Instant) :
    (∃ choice, (interpret c.presenter event).1 = .choice choice ∧
      (c.handle interpret event now).2 = ((c.reading interpret event).dispatch choice now).2) ∨
    ((∀ choice, (interpret c.presenter event).1 ≠ .choice choice) ∧
      (c.handle interpret event now).2 = c.reading interpret event) := by
  rcases hevent : interpret c.presenter event with ⟨input, p⟩
  simp only [handle, reading, hevent]
  cases input with
  | skip =>
    refine .inr ⟨?_, rfl⟩
    intro choice h
    cases h
  | quit =>
    refine .inr ⟨?_, rfl⟩
    intro choice h
    cases h
  | choice choice =>
    refine .inl ⟨choice, rfl, ?_⟩
    rcases hdispatch : dispatch { c with presenter := p } choice now with ⟨answer, c'⟩
    simp only [hdispatch]
    rcases answer with e | d
    · rfl
    · cases d <;> rfl

end Controller

namespace EventLoop

variable {σ τ ε : Type} [Presenter σ] [LedgerStore τ] {interpret : σ → ε → Input × σ} {now : Instant}
  {c : Controller σ τ} {l : EventLoop σ τ ε}

/-- The play of a loop has handled what was interpreted. -/
def Handled (interpret : σ → ε → Input × σ) (now : Instant) (c : Controller σ τ) (l : EventLoop σ τ ε) :
    Prop :=
  l.controller = c.handleEach interpret now l.interpreted

theorem Handled.step (h : l.Handled interpret now c) (sent : List ε) :
    (l.step interpret now sent).Handled interpret now c := by
  rw [EventLoop.step]
  split
  · next event queue _ _ =>
    rcases hhandle : l.controller.handle interpret event now with ⟨verdict, c'⟩
    have hsnoc : c' = c.handleEach interpret now (l.interpreted ++ [event]) := by
      rw [Controller.handleEach_append, ← h]
      exact (congrArg Prod.snd hhandle).symm
    cases verdict <;> exact hsnoc
  · exact h

theorem handled_run (interpret : σ → ε → Input × σ) (now : Instant) (c : Controller σ τ)
    (events : List ε) : (c.run interpret events now).Handled interpret now c := by
  have hrepeat : ∀ n, (Nat.repeat (EventLoop.step interpret now []) n
      ({ controller := c, queue := events } : EventLoop σ τ ε)).Handled interpret now c := by
    intro n
    induction n with
    | zero => exact rfl
    | succ n ih => exact ih.step []
  exact hrepeat events.length

end EventLoop

/-! ## Events of a play that is watched -/

namespace Controller

section Watching

variable {σ τ γ ε : Type} [Presenter σ] [LedgerStore τ] {interpret : σ → ε → Input × σ}
  {note : γ → Directive → γ}

/-- A play that is watched starts as the play does by itself. -/
theorem start_unwatched {c : Controller (Watched σ γ) τ} (hnote : c.presenter.note = note) (now : Instant) :
    (c.start now).2.unwatched = (c.unwatched.start now).2 ∧ (c.start now).2.presenter.note = note := by
  have hagree := ((lockstep_unwatched c.scenario now).agree_start (alike_unwatched hnote trivial)).related
  exact ⟨hagree.unwatched_eq, hagree.presenters.note_eq⟩

/-- An event does to a play that is watched what it does to the play by itself. -/
theorem handle_unwatched (interpret : σ → ε → Input × σ) {c : Controller (Watched σ γ) τ}
    (hnote : c.presenter.note = note) (event : ε) (now : Instant) :
    (c.handle (Watched.reads interpret) event now).2.unwatched =
        (c.unwatched.handle interpret event now).2 ∧
      (c.handle (Watched.reads interpret) event now).2.presenter.note = note := by
  rcases c.handle_cases (Watched.reads interpret) event now with ⟨choice, hchoice, heq⟩ | ⟨hother, heq⟩
  · have hnoted : (c.reading (Watched.reads interpret) event).presenter.note = note := hnote
    have hagree := ((lockstep_unwatched c.scenario now).agree_dispatch
      (alike_unwatched (c := c.reading (Watched.reads interpret) event) hnoted trivial) choice).related
    rcases c.unwatched.handle_cases interpret event now with ⟨choice', hchoice', heq'⟩ | ⟨hother, -⟩
    · cases hchoice'.symm.trans hchoice
      rw [heq, heq']
      exact ⟨hagree.unwatched_eq, hagree.presenters.note_eq⟩
    · exact absurd hchoice (hother choice)
  · rcases c.unwatched.handle_cases interpret event now with ⟨choice, hchoice, -⟩ | ⟨-, heq'⟩
    · exact absurd hchoice (hother choice)
    · rw [heq, heq']
      exact ⟨rfl, hnote⟩

theorem handleEach_unwatched {c : Controller (Watched σ γ) τ} (hnote : c.presenter.note = note)
    (now : Instant) (events : List ε) :
    (c.handleEach (Watched.reads interpret) now events).unwatched =
      c.unwatched.handleEach interpret now events := by
  induction events generalizing c with
  | nil => rfl
  | cons event events ih =>
    obtain ⟨hunwatched, hnoted⟩ := handle_unwatched interpret hnote event now
    rw [handleEach_cons, handleEach_cons, ih hnoted, hunwatched]

end Watching

end Controller

end VisualNovel
