/-
  VisualNovel.Proofs.EventLoop.Rounds

  What becomes of the events of a loop, one moment at a time. Events are sent at
  any moments, also while the loop handles another one (`Moment`). When the loop
  takes its turn, the first event of the queue has its round (`Round`): it is
  interpreted, and a choice is dispatched. `meet_cases` says all that one moment
  can do.

  What an event means may depend on the screen and on what the translation
  remembers of earlier events. The translation looks at the screen and no more,
  so the play goes on as it would without it.
-/

import VisualNovel.EventLoop
import VisualNovel.Proofs.Scene.Lockstep

namespace VisualNovel

open Time (Instant)

variable {σ τ γ ε : Type}

/-! ## Translations -/

/-- What an event means, by the memory of the translation and by the screen; the memory goes on. -/
abbrev Translation (γ σ ε : Type) := γ → σ → ε → Input × γ

namespace Watched

/-- What is asked of the screen is nothing that the translation hears of. -/
def keep (memory : γ) (_ : Directive) : γ :=
  memory

/-- Interprets an event by the screen; the notes are the memory of the translation. -/
def interpret (translate : Translation γ σ ε) (w : Watched σ γ) (event : ε) : Input × Watched σ γ :=
  ((translate w.notes w.inner event).1, { w with notes := (translate w.notes w.inner event).2 })

end Watched

/-- How a play stands after a choice. -/
def Verdict.ofAnswer : Except PlayError Dispatch → Verdict
  | .ok .transitioned => .changedScene
  | .ok _ => .goesOn
  | .error e => .fails e

namespace Controller

variable [Presenter σ] [LedgerStore τ]

/-- A choice does to a play with a translation what it does to the play by itself. -/
theorem dispatch_unwatched {c : Controller (Watched σ γ) τ} (hnote : c.presenter.note = Watched.keep)
    (choice : UserChoice) (now : Instant) :
    (c.dispatch choice now).1 = (c.unwatched.dispatch choice now).1 ∧
    (c.dispatch choice now).2.unwatched = (c.unwatched.dispatch choice now).2 ∧
    (c.dispatch choice now).2.presenter.note = Watched.keep ∧
    (c.dispatch choice now).2.presenter.notes = c.presenter.notes := by
  have hlockstep : Lockstep c.scenario now now
      (Watches (σ := σ) Watched.keep fun notes => notes = c.presenter.notes) (SameRecords (τ := τ)) :=
    lockstep_watched c.scenario now fun _ _ h => h
  obtain ⟨hanswer, hafter⟩ := hlockstep.agree_dispatch (alike_unwatched hnote rfl) choice
  exact ⟨hanswer, hafter.unwatched_eq, hafter.presenters.note_eq, hafter.presenters.notes⟩

/-- The play once the translation has looked at an event. -/
def recalling (translate : Translation γ σ ε) (c : Controller (Watched σ γ) τ) (event : ε) :
    Controller (Watched σ γ) τ :=
  { c with presenter := (Watched.interpret translate c.presenter event).2 }

section Handling

variable {translate : Translation γ σ ε} {c : Controller (Watched σ γ) τ} {event : ε}

theorem handle_of_skip (h : (translate c.presenter.notes c.presenter.inner event).1 = .skip)
    (now : Instant) :
    c.handle (Watched.interpret translate) event now = (.goesOn, c.recalling translate event) := by
  simp only [handle, Watched.interpret, h, recalling]

theorem handle_of_quit (h : (translate c.presenter.notes c.presenter.inner event).1 = .quit)
    (now : Instant) :
    c.handle (Watched.interpret translate) event now = (.quits, c.recalling translate event) := by
  simp only [handle, Watched.interpret, h, recalling]

theorem handle_of_choice {choice : UserChoice} {now : Instant} {answer : Except PlayError Dispatch}
    {c' : Controller (Watched σ γ) τ}
    (h : (translate c.presenter.notes c.presenter.inner event).1 = .choice choice)
    (hdispatch : (c.recalling translate event).dispatch choice now = (answer, c')) :
    c.handle (Watched.interpret translate) event now = (.ofAnswer answer, c') := by
  simp only [recalling, Watched.interpret] at hdispatch
  simp only [handle, Watched.interpret, h, hdispatch]
  rcases answer with e | d
  · rfl
  · cases d with
    | handled => rfl
    | transitioned => rfl
    | ignored => rfl

end Handling

end Controller

/-! ## Rounds -/

/-- What became of an event that was interpreted. -/
inductive Round (ε : Type)
  | skipped (event : ε)
  | quit (event : ε)
  /-- It was a choice that led to no other scene. -/
  | stayed (event : ε) (choice : UserChoice) (now : Instant)
  /-- It was a choice that changed the scene; what was queued then was dropped. -/
  | changedScene (event : ε) (choice : UserChoice) (now : Instant) (dropped : List ε)
  /-- It was a choice that ended with an error. -/
  | failed (event : ε) (choice : UserChoice) (now : Instant) (e : PlayError)

namespace Round

/-- The event that was interpreted. -/
def event : Round ε → ε
  | skipped event | quit event | stayed event _ _ | changedScene event _ _ _ | failed event _ _ _ => event

/-- The events that were dropped behind it. -/
def dropped : Round ε → List ε
  | changedScene _ _ _ dropped => dropped
  | _ => []

/-- All events that the round takes from the queue, in order. -/
def events (r : Round ε) : List ε :=
  r.event :: r.dropped

/-- What the round asks of the play. -/
def operations : Round ε → List (Operation × Instant)
  | skipped _ | quit _ => []
  | stayed _ choice now | changedScene _ choice now _ | failed _ choice now _ =>
    [(.dispatch choice, now)]

/-- The result of the loop, if the round ends it. -/
def ending : Round ε → Option (Except PlayError Unit)
  | quit _ => some (.ok ())
  | failed _ _ _ e => some (.error e)
  | _ => none

/-- Whether the scene was changed. -/
def isChange : Round ε → Bool
  | changedScene .. => true
  | _ => false

/-- A round that ends the loop drops nothing. -/
theorem events_of_ending {r : Round ε} {result : Except PlayError Unit} (h : r.ending = some result) :
    r.events = [r.event] := by
  cases r with
  | quit event => rfl
  | failed event choice now e => rfl
  | _ => cases h

/-- The round is what its event comes to in a play: what it means, and what a choice is answered. -/
def Fits [Presenter σ] [LedgerStore τ] (translate : Translation γ σ ε) (c : Controller σ τ) (memory : γ)
    (r : Round ε) : Prop :=
  let meaning := (translate memory c.presenter r.event).1
  match r with
  | skipped _ => meaning = .skip
  | quit _ => meaning = .quit
  | stayed _ choice now =>
    meaning = .choice choice ∧ ∃ d, (c.dispatch choice now).1 = .ok d ∧ d ≠ .transitioned
  | changedScene _ choice now _ =>
    meaning = .choice choice ∧ (c.dispatch choice now).1 = .ok .transitioned
  | failed _ choice now e => meaning = .choice choice ∧ (c.dispatch choice now).1 = .error e

end Round

/-- Rounds that take place one after another, and the play and the memory of the translation after them. -/
inductive Rounds [Presenter σ] [LedgerStore τ] (translate : Translation γ σ ε) (c : Controller σ τ) (memory : γ) :
    List (Round ε) → Controller σ τ → γ → Prop
  | nil : Rounds translate c memory [] c memory
  | snoc {rounds : List (Round ε)} {c' : Controller σ τ} {memory' : γ} {r : Round ε}
      (earlier : Rounds translate c memory rounds c' memory') (fits : r.Fits translate c' memory') :
      Rounds translate c memory (rounds ++ [r]) (c'.after r.operations)
        (translate memory' c'.presenter r.event).2

/-! ## Moments -/

/-- What happens next around a loop. -/
inductive Moment (ε : Type)
  /-- Events are sent. -/
  | arrival (sent : List ε)
  /-- The loop takes its turn at some instant, and events are sent in the meantime. -/
  | turn (now : Instant) (sent : List ε)
  /-- The loop looks whether it is done, because there is no sender any more. -/
  | hangUp

/-- The events that are sent. -/
def Moment.sent : Moment ε → List ε
  | arrival sent | turn _ sent => sent
  | hangUp => []

namespace EventLoop

/-- A loop that has not begun. -/
def opening (c : Controller σ τ) (memory : γ) : EventLoop (Watched σ γ) τ ε where
  controller := c.watched Watched.keep memory
  queue := []

variable [Presenter σ] [LedgerStore τ]

/-- The loop after a moment. -/
def meet (interpret : σ → ε → Input × σ) (l : EventLoop σ τ ε) : Moment ε → EventLoop σ τ ε
  | .arrival sent => l.receive sent
  | .turn now sent => l.step interpret now sent
  | .hangUp => if l.queue.isEmpty then l.close else l

/-- The loop after some moments. -/
def meetAll (interpret : σ → ε → Input × σ) (l : EventLoop σ τ ε) (moments : List (Moment ε)) :
    EventLoop σ τ ε :=
  moments.foldl (meet interpret) l

/-- No event is interpreted; what is sent is queued. A loop without events may end. -/
structure Waits (l l' : EventLoop σ τ ε) (sent : List ε) : Prop where
  controller_eq : l'.controller = l.controller
  queue_eq : l'.queue = l.queue ++ sent
  interpreted_eq : l'.interpreted = l.interpreted
  dropped_eq : l'.dropped = l.dropped
  result_eq : l'.result = l.result ∨ l.result = none ∧ l'.result = some (.ok ()) ∧ l.queue = []

/-- The first event of the queue has its round; what is sent is queued behind it. -/
structure Takes (translate : Translation γ σ ε) (l l' : EventLoop (Watched σ γ) τ ε) (sent : List ε)
    (r : Round ε) : Prop where
  going : l.result = none
  fits : r.Fits translate l.controller.unwatched l.controller.presenter.notes
  queue_eq : l.queue ++ sent = r.events ++ l'.queue
  /-- Nothing that was sent before or during a change of scene is left. -/
  emptied : r.isChange = true → l'.queue = []
  interpreted_eq : l'.interpreted = l.interpreted ++ [r.event]
  dropped_eq : l'.dropped = l.dropped ++ r.dropped
  result_eq : l'.result = r.ending
  play_eq : l'.controller.unwatched = l.controller.unwatched.after r.operations
  memory_eq : l'.controller.presenter.notes =
    (translate l.controller.presenter.notes l.controller.presenter.inner r.event).2
  note_eq : l'.controller.presenter.note = Watched.keep

theorem step_waits {l : EventLoop σ τ ε} (h : l.result ≠ none ∨ l.queue = [])
    (interpret : σ → ε → Input × σ) (now : Instant) (sent : List ε) :
    l.Waits (l.step interpret now sent) sent := by
  have hstep : l.step interpret now sent = l.receive sent := by
    rw [step]
    split
    · next hgoing hqueue =>
      rcases h with h | h
      · exact absurd hgoing h
      · rw [h] at hqueue
        cases hqueue
    · rfl
  rw [hstep]
  exact ⟨rfl, rfl, rfl, rfl, .inl rfl⟩

/-- **A turn gives the first event its round.** -/
theorem step_takes {translate : Translation γ σ ε} {l : EventLoop (Watched σ γ) τ ε}
    (hnote : l.controller.presenter.note = Watched.keep) (hgoing : l.result = none) {event : ε}
    {queue : List ε} (hqueue : l.queue = event :: queue) (now : Instant) (sent : List ε) :
    ∃ r, l.Takes translate (l.step (Watched.interpret translate) now sent) sent r := by
  have hfirst : l.queue ++ sent = event :: (queue ++ sent) := by rw [hqueue]; rfl
  -- Without a change of scene nothing is dropped and the queue need not be empty.
  have hnone := (List.append_nil l.dropped).symm
  have hnoChange : ∀ {P : Prop}, false = true → P := fun h => absurd h Bool.false_ne_true
  cases hmeaning : (translate l.controller.presenter.notes l.controller.presenter.inner event).1 with
  | skip =>
    simp only [step, hgoing, hqueue, Controller.handle_of_skip hmeaning]
    exact ⟨.skipped event, hgoing, hmeaning, hfirst, hnoChange, rfl, hnone, rfl, rfl, rfl, hnote⟩
  | quit =>
    simp only [step, hgoing, hqueue, Controller.handle_of_quit hmeaning]
    exact ⟨.quit event, hgoing, hmeaning, hfirst, hnoChange, rfl, hnone, rfl, rfl, rfl, hnote⟩
  | choice choice =>
    obtain ⟨hanswer, hplay, hnote', hmemory⟩ := Controller.dispatch_unwatched
      (c := l.controller.recalling translate event) hnote choice now
    -- The play by itself goes on with the operation that the round is to have.
    rw [← Controller.operate_dispatch (Controller.unwatched _)] at hplay
    rcases hdispatch : (l.controller.recalling translate event).dispatch choice now with ⟨answer, c'⟩
    rw [hdispatch] at hanswer hplay hnote' hmemory
    simp only [step, hgoing, hqueue, Controller.handle_of_choice hmeaning hdispatch]
    cases answer with
    | error e =>
      exact ⟨.failed event choice now e, hgoing, ⟨hmeaning, hanswer.symm⟩, hfirst, hnoChange, rfl, hnone,
        rfl, hplay, hmemory, hnote'⟩
    | ok d =>
      by_cases hd : d = .transitioned
      · subst hd
        have hall := (List.append_nil (event :: (queue ++ sent))).symm
        exact ⟨.changedScene event choice now (queue ++ sent), hgoing, ⟨hmeaning, hanswer.symm⟩,
          hfirst.trans hall, fun _ => rfl, rfl, rfl, rfl, hplay, hmemory, hnote'⟩
      · have hverdict : Verdict.ofAnswer (.ok d) = .goesOn := by
          cases d with
          | transitioned => exact absurd rfl hd
          | handled => rfl
          | ignored => rfl
        rw [hverdict]
        exact ⟨.stayed event choice now, hgoing, ⟨hmeaning, d, hanswer.symm, hd⟩, hfirst, hnoChange, rfl,
          hnone, rfl, hplay, hmemory, hnote'⟩

/-- All that a moment can do. -/
theorem meet_cases {translate : Translation γ σ ε} {l : EventLoop (Watched σ γ) τ ε}
    (hnote : l.controller.presenter.note = Watched.keep) (m : Moment ε) :
    l.Waits (l.meet (Watched.interpret translate) m) m.sent ∨
      ∃ r, l.Takes translate (l.meet (Watched.interpret translate) m) m.sent r := by
  cases m with
  | arrival sent => exact .inl ⟨rfl, rfl, rfl, rfl, .inl rfl⟩
  | turn now sent =>
    cases hgoing : l.result with
    | some result =>
      have hended : l.result ≠ none := by rw [hgoing]; exact Option.some_ne_none result
      exact .inl (step_waits (.inl hended) (Watched.interpret translate) now sent)
    | none =>
      cases hqueue : l.queue with
      | nil => exact .inl (step_waits (.inr hqueue) (Watched.interpret translate) now sent)
      | cons event queue => exact .inr (step_takes hnote hgoing hqueue now sent)
  | hangUp =>
    left
    rw [meet]
    split
    · next hempty =>
      refine ⟨rfl, (List.append_nil l.queue).symm, rfl, rfl, ?_⟩
      cases hresult : l.result with
      | none => exact .inr ⟨rfl, by rw [close, hresult]; rfl, List.isEmpty_iff.1 hempty⟩
      | some result => exact .inl (by rw [close, hresult]; rfl)
    · exact ⟨rfl, (List.append_nil l.queue).symm, rfl, rfl, .inl rfl⟩

end EventLoop

end VisualNovel
