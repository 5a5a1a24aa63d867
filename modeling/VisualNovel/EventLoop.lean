/-
  VisualNovel.EventLoop

  Feeding events to a play one at a time. Events wait in a queue; each is
  interpreted by what is on screen, and a choice is dispatched. What is still
  queued when a change of scene is complete was sent during the change and is
  dropped. Every event that was sent is interpreted, dropped or still queued.
  `step_of_ended` says that a loop that has ended takes no further event.
-/

import VisualNovel.Scene.Controller

namespace VisualNovel

open Time (Instant)

/-- What an event means. -/
inductive Input
  | choice (c : UserChoice)
  | skip
  | quit
  deriving DecidableEq, Repr

/-- How the play stands after an event. -/
inductive Verdict
  | goesOn
  | changedScene
  | quits
  | fails (e : PlayError)
  deriving DecidableEq, Repr

/-- Interprets one event and dispatches the choice, if it is one. -/
def Controller.handle {σ τ ε : Type} [Presenter σ] [LedgerStore τ] (interpret : σ → ε → Input × σ)
    (c : Controller σ τ) (event : ε) (now : Instant) : Verdict × Controller σ τ :=
  let (input, presenter) := interpret c.presenter event
  let c := { c with presenter }
  match input with
  | .skip => (.goesOn, c)
  | .quit => (.quits, c)
  | .choice choice =>
    match c.dispatch choice now with
    | (.ok .transitioned, c) => (.changedScene, c)
    | (.ok _, c) => (.goesOn, c)
    | (.error e, c) => (.fails e, c)

/-- A play with its queue of events. -/
structure EventLoop (σ τ ε : Type) where
  controller : Controller σ τ
  queue : List ε
  /-- The events that were interpreted, in order. -/
  interpreted : List ε := []
  /-- The events that were dropped, in order. -/
  dropped : List ε := []
  /-- The result, once the loop has ended. -/
  result : Option (Except PlayError Unit) := none

namespace EventLoop

variable {σ τ ε : Type}

/-- Takes in events that were sent. -/
def receive (l : EventLoop σ τ ε) (sent : List ε) : EventLoop σ τ ε :=
  { l with queue := l.queue ++ sent }

/-- Ends the loop well, unless it has ended already. -/
def close (l : EventLoop σ τ ε) : EventLoop σ τ ε :=
  { l with result := l.result.or (some (.ok ())) }

variable [Presenter σ] [LedgerStore τ]

/-- Handles the first event of the queue; `sent` are the events that arrive in the meantime. -/
def step (interpret : σ → ε → Input × σ) (now : Instant) (sent : List ε) (l : EventLoop σ τ ε) :
    EventLoop σ τ ε :=
  match l.result, l.queue with
  | none, event :: queue =>
    -- What arrives while the event is handled stands behind the queue as it is now.
    let (verdict, controller) := l.controller.handle interpret event now
    let l := { l with controller, queue := queue ++ sent, interpreted := l.interpreted ++ [event] }
    match verdict with
    | .goesOn => l
    -- Events that were meant for the scene before are not given to the next one.
    | .changedScene => { l with queue := [], dropped := l.dropped ++ l.queue }
    | .quits => { l with result := some (.ok ()) }
    | .fails e => { l with result := some (.error e) }
  | _, _ => l.receive sent

theorem step_of_ended (interpret : σ → ε → Input × σ) (now : Instant) (sent : List ε)
    {l : EventLoop σ τ ε} {r : Except PlayError Unit} (h : l.result = some r) :
    step interpret now sent l = l.receive sent := by
  simp [step, h]

/-- Handles all events of the queue when no more are sent. -/
def run (interpret : σ → ε → Input × σ) (now : Instant) (l : EventLoop σ τ ε) : EventLoop σ τ ε :=
  (Nat.repeat (step interpret now []) l.queue.length l).close

end EventLoop

/-- Runs a play on some events that are all sent beforehand. -/
def Controller.run {σ τ ε : Type} [Presenter σ] [LedgerStore τ] (c : Controller σ τ)
    (interpret : σ → ε → Input × σ) (events : List ε) (now : Instant) : EventLoop σ τ ε :=
  EventLoop.run interpret now { controller := c, queue := events }

end VisualNovel
