/-
  VisualNovel.Proofs.EventLoop.Feeding

  A loop of events beside a script. A script handles one event after another, up
  to the first that is an end (`Controller.scripted`). A loop is fed in one of two
  ways: an event is sent whenever the loop waits for one (`Feed.patient`), or all
  are sent before the loop begins (`Feed.beforehand`). In the first way the loop
  replays the script on all events (`replays_patient`). In the second it does so
  on the events up to the first change of scene (`replays_beforehand`), since what
  is queued behind that one is dropped.
-/

import Mathlib.Logic.Relation
import VisualNovel.Proofs.EventLoop.Conservation
import VisualNovel.Proofs.EventLoop.Handling
import VisualNovel.Proofs.Scene.Reading

namespace VisualNovel

open Relation (ReflTransGen)
open Time (Instant)

/-- The result of a play that ends with this verdict. -/
def Verdict.ending : Verdict → Option (Except PlayError Unit)
  | .goesOn => none
  | .changedScene => none
  | .quits => some (.ok ())
  | .fails e => some (.error e)

theorem Verdict.isEnd_eq (v : Verdict) : v.isEnd = v.ending.isSome := by
  cases v <;> rfl

variable {σ τ ε : Type}

/-! ## Scripts -/

namespace Controller

variable [Presenter σ] [LedgerStore τ]

/--
The verdicts on the events of a script, each with the play after it, up to the first that is an end.
The events count from `n` on, and `clock` has the instants at which they are handled.
-/
def handlings (interpret : σ → ε → Input × σ) (clock : Nat → Instant) (n : Nat) (c : Controller σ τ) :
    List ε → List (Verdict × Controller σ τ)
  | [] => []
  | event :: events =>
    let after := c.handle interpret event (clock n)
    after :: if after.1.isEnd then [] else handlings interpret clock (n + 1) after.2 events

/-- The plays that a script passes through, one after each event that it handles. -/
def states (interpret : σ → ε → Input × σ) (clock : Nat → Instant) (n : Nat) (c : Controller σ τ)
    (events : List ε) : List (Controller σ τ) :=
  (c.handlings interpret clock n events).map Prod.snd

/-- The result of a script, with the play that it ends in. -/
def scripted (interpret : σ → ε → Input × σ) (clock : Nat → Instant) (n : Nat) (c : Controller σ τ) :
    List ε → Except PlayError Unit × Controller σ τ
  | [] => (.ok (), c)
  | event :: events =>
    match c.handle interpret event (clock n) with
    | (.goesOn, c) => scripted interpret clock (n + 1) c events
    | (.changedScene, c) => scripted interpret clock (n + 1) c events
    | (.quits, c) => (.ok (), c)
    | (.fails e, c) => (.error e, c)

/-- The events up to the first one that changes the scene, or all if none does before the script ends. -/
def upToChange (interpret : σ → ε → Input × σ) (clock : Nat → Instant) (n : Nat) (c : Controller σ τ)
    (events : List ε) : List ε :=
  match (c.handlings interpret clock n events).findIdx? fun h => h.1 == .changedScene with
  | some i => events.take (i + 1)
  | none => events

/-- The verdict on an event, by what it means. -/
theorem handle_fst (interpret : σ → ε → Input × σ) (c : Controller σ τ) (event : ε) (now : Instant) :
    (c.handle interpret event now).1 =
      match (interpret c.presenter event).1 with
      | .skip => .goesOn
      | .quit => .quits
      | .choice choice => .ofAnswer ((c.reading interpret event).dispatch choice now).1 := by
  rcases hinput : interpret c.presenter event with ⟨input, p⟩
  simp only [handle, reading, hinput]
  cases input with
  | skip => rfl
  | quit => rfl
  | choice choice =>
    rcases hdispatch : dispatch { c with presenter := p } choice now with ⟨answer, c'⟩
    simp only [hdispatch]
    rcases answer with e | d
    · rfl
    · cases d <;> rfl

section Event

variable {interpret : σ → ε → Input × σ} {clock : Nat → Instant} {n : Nat} {c : Controller σ τ}
  {event : ε} {r : Except PlayError Unit}

theorem handlings_of_goes (h : (c.handle interpret event (clock n)).1.ending = none) (events : List ε) :
    c.handlings interpret clock n (event :: events) = c.handle interpret event (clock n) ::
      (c.handle interpret event (clock n)).2.handlings interpret clock (n + 1) events := by
  simp only [handlings, Verdict.isEnd_eq, h, Option.isSome_none, Bool.false_eq_true, if_false]

theorem handlings_of_ends (h : (c.handle interpret event (clock n)).1.ending = some r)
    (events : List ε) :
    c.handlings interpret clock n (event :: events) = [c.handle interpret event (clock n)] := by
  simp only [handlings, Verdict.isEnd_eq, h, Option.isSome_some, if_true]

theorem states_of_goes (h : (c.handle interpret event (clock n)).1.ending = none) (events : List ε) :
    c.states interpret clock n (event :: events) = (c.handle interpret event (clock n)).2 ::
      (c.handle interpret event (clock n)).2.states interpret clock (n + 1) events := by
  rw [states, handlings_of_goes h, List.map_cons, states]

theorem states_of_ends (h : (c.handle interpret event (clock n)).1.ending = some r)
    (events : List ε) :
    c.states interpret clock n (event :: events) = [(c.handle interpret event (clock n)).2] := by
  rw [states, handlings_of_ends h, List.map_singleton]

theorem scripted_of_goes (h : (c.handle interpret event (clock n)).1.ending = none) (events : List ε) :
    c.scripted interpret clock n (event :: events) =
      (c.handle interpret event (clock n)).2.scripted interpret clock (n + 1) events := by
  rcases hhandle : c.handle interpret event (clock n) with ⟨verdict, c'⟩
  rw [hhandle] at h
  simp only [scripted, hhandle]
  cases verdict with
  | goesOn => rfl
  | changedScene => rfl
  | quits => cases h
  | fails e => cases h

theorem scripted_of_ends (h : (c.handle interpret event (clock n)).1.ending = some r)
    (events : List ε) :
    c.scripted interpret clock n (event :: events) =
      (r, (c.handle interpret event (clock n)).2) := by
  rcases hhandle : c.handle interpret event (clock n) with ⟨verdict, c'⟩
  rw [hhandle] at h
  simp only [scripted, hhandle]
  cases verdict with
  | goesOn => cases h
  | changedScene => cases h
  | quits => cases h; rfl
  | fails e => cases h; rfl

theorem upToChange_of_goesOn (h : (c.handle interpret event (clock n)).1 = .goesOn)
    (events : List ε) :
    c.upToChange interpret clock n (event :: events) = event ::
      (c.handle interpret event (clock n)).2.upToChange interpret clock (n + 1) events := by
  have hgoes : (c.handle interpret event (clock n)).1.ending = none := by rw [h]; rfl
  have hfirst : ((c.handle interpret event (clock n)).1 == .changedScene) = false := by rw [h]; rfl
  rw [upToChange, handlings_of_goes hgoes, List.findIdx?_cons, hfirst, upToChange]
  -- Behind the first event the change stands one place earlier.
  cases List.findIdx? _ _ with
  | none => rfl
  | some i => rfl

theorem upToChange_of_changedScene (h : (c.handle interpret event (clock n)).1 = .changedScene)
    (events : List ε) : c.upToChange interpret clock n (event :: events) = [event] := by
  have hgoes : (c.handle interpret event (clock n)).1.ending = none := by rw [h]; rfl
  have hfirst : ((c.handle interpret event (clock n)).1 == .changedScene) = true := by rw [h]; rfl
  rw [upToChange, handlings_of_goes hgoes, List.findIdx?_cons, hfirst]
  rfl

theorem upToChange_of_ends (h : (c.handle interpret event (clock n)).1.ending = some r)
    (events : List ε) : c.upToChange interpret clock n (event :: events) = event :: events := by
  have hfirst : ((c.handle interpret event (clock n)).1 == .changedScene) = false := by
    rcases hverdict : (c.handle interpret event (clock n)).1 with - | - | - | e
    · rfl
    · rw [hverdict] at h
      cases h
    · rfl
    · rfl
  rw [upToChange, handlings_of_ends h, List.findIdx?_cons, hfirst]
  rfl

end Event

/-! ## Scripts that are watched -/

section Watching

variable {γ : Type} {note : γ → Directive → γ} {interpret : σ → ε → Input × σ} {clock : Nat → Instant}
  {c : Controller (Watched σ γ) τ}

/-- An event has the verdict that it has when nobody watches, and does to the play what it does then. -/
theorem handle_of_watched (hnote : c.presenter.note = note) (event : ε) (now : Instant) :
    c.unwatched.handle interpret event now =
      ((c.handle (Watched.reads interpret) event now).1,
        (c.handle (Watched.reads interpret) event now).2.unwatched) := by
  refine Prod.ext ?_ (handle_unwatched interpret hnote event now).1.symm
  have hmeaning : (Watched.reads interpret c.presenter event).1 =
    (interpret c.unwatched.presenter event).1 := rfl
  simp only [handle_fst, hmeaning]
  cases (interpret c.unwatched.presenter event).1 with
  | skip => rfl
  | quit => rfl
  | choice choice =>
    have hnoted : (c.reading (Watched.reads interpret) event).presenter.note = note := hnote
    have hagree := ((lockstep_unwatched c.scenario now).agree_dispatch
      (alike_unwatched (c := c.reading (Watched.reads interpret) event) hnoted trivial) choice).answer_eq
    exact congrArg Verdict.ofAnswer hagree.symm

theorem handlings_unwatched (hnote : c.presenter.note = note) (n : Nat) (events : List ε) :
    (c.handlings (Watched.reads interpret) clock n events).map (fun h => (h.1, h.2.unwatched)) =
      c.unwatched.handlings interpret clock n events := by
  induction events generalizing n c with
  | nil => rfl
  | cons event events ih =>
    obtain ⟨-, hnoted⟩ := handle_unwatched interpret hnote event (clock n)
    simp only [handlings, handle_of_watched hnote, List.map_cons, List.cons.injEq, true_and]
    split
    · rfl
    · exact ih hnoted (n + 1)

theorem upToChange_unwatched (hnote : c.presenter.note = note) (n : Nat) (events : List ε) :
    c.upToChange (Watched.reads interpret) clock n events =
      c.unwatched.upToChange interpret clock n events := by
  rw [upToChange, upToChange, ← handlings_unwatched hnote, List.findIdx?_map]
  rfl

theorem scripted_unwatched (hnote : c.presenter.note = note) (n : Nat) (events : List ε) :
    c.unwatched.scripted interpret clock n events =
      ((c.scripted (Watched.reads interpret) clock n events).1,
        (c.scripted (Watched.reads interpret) clock n events).2.unwatched) := by
  induction events generalizing n c with
  | nil => rfl
  | cons event events ih =>
    obtain ⟨-, hnoted⟩ := handle_unwatched interpret hnote event (clock n)
    have hplain : c.unwatched.handle interpret event (clock n) = _ :=
      handle_of_watched hnote event (clock n)
    cases hverdict : (c.handle (Watched.reads interpret) event (clock n)).1.ending with
    | none =>
      have hgoes : (c.unwatched.handle interpret event (clock n)).1.ending = none := by
        rw [hplain, hverdict]
      rw [scripted_of_goes hverdict, scripted_of_goes hgoes, hplain, ih hnoted]
    | some r =>
      have hends : (c.unwatched.handle interpret event (clock n)).1.ending = some r := by
        rw [hplain, hverdict]
      rw [scripted_of_ends hverdict, scripted_of_ends hends, hplain]

end Watching

end Controller

/-! ## Feeding a loop -/

/-- A loop with the events that are still to be sent, and the plays that it has passed through. -/
structure Feed (σ τ ε : Type) where
  loop : EventLoop σ τ ε
  unsent : List ε
  passed : List (Controller σ τ) := []

namespace EventLoop

variable [Presenter σ] [LedgerStore τ] {l : EventLoop σ τ ε}

/-- **A turn** handles the first event. What is queued behind it is kept if the scene is. -/
theorem step_of_queue {interpret : σ → ε → Input × σ} {now : Instant} {event : ε} {queue : List ε}
    {verdict : Verdict} {c : Controller σ τ} (hgoing : l.result = none)
    (hqueue : l.queue = event :: queue)
    (hhandle : l.controller.handle interpret event now = (verdict, c)) :
    l.step interpret now [] =
      { controller := c
        queue := if verdict = .changedScene then [] else queue
        interpreted := l.interpreted ++ [event]
        dropped := if verdict = .changedScene then l.dropped ++ queue else l.dropped
        result := verdict.ending } := by
  simp only [step, hgoing, hqueue, hhandle, List.append_nil]
  cases verdict with
  | goesOn => rfl
  | changedScene => rfl
  | quits => rfl
  | fails e => rfl

/-- A loop that has ended or has no event is left as it is. -/
theorem step_of_idle (h : l.result ≠ none ∨ l.queue = []) (interpret : σ → ε → Input × σ)
    (now : Instant) : l.step interpret now [] = l := by
  have hreceive : l.receive [] = l := by rw [receive, List.append_nil]
  rcases h with hended | hempty
  · obtain ⟨r, hr⟩ := Option.ne_none_iff_exists'.1 hended
    rw [step_of_ended interpret now [] hr, hreceive]
  · rw [step]
    split
    · next hqueue =>
      rw [hempty] at hqueue
      cases hqueue
    · exact hreceive

end EventLoop

namespace Feed

/-- The events are sent one by one. -/
def patient (c : Controller σ τ) (events : List ε) : Feed σ τ ε where
  loop := { controller := c, queue := [] }
  unsent := events

/-- The events were all sent before the loop begins. -/
def beforehand (c : Controller σ τ) (events : List ε) : Feed σ τ ε where
  loop := { controller := c, queue := events }
  unsent := []

variable [Presenter σ] [LedgerStore τ]

/-- The loop handles an event, at the instant that `clock` has for it. -/
def turn (interpret : σ → ε → Input × σ) (clock : Nat → Instant) (f : Feed σ τ ε) : Feed σ τ ε :=
  let loop := f.loop.step interpret (clock f.loop.interpreted.length) []
  { f with loop, passed := f.passed ++ [loop.controller] }

/-- What happens next while the loop has not ended. -/
inductive Step (interpret : σ → ε → Input × σ) (clock : Nat → Instant) :
    Feed σ τ ε → Feed σ τ ε → Prop
  /-- The loop waits, and one more event is sent. -/
  | send {f : Feed σ τ ε} {event : ε} {unsent : List ε} (going : f.loop.result = none)
      (waiting : f.loop.queue = []) (next : f.unsent = event :: unsent) :
      Step interpret clock f { f with loop := f.loop.receive [event], unsent }
  | turn {f : Feed σ τ ε} (going : f.loop.result = none) (queued : f.loop.queue ≠ []) :
      Step interpret clock f (f.turn interpret clock)
  /-- The loop waits, but there is no sender any more. -/
  | hangUp {f : Feed σ τ ε} (going : f.loop.result = none) (waiting : f.loop.queue = [])
      (spent : f.unsent = []) : Step interpret clock f { f with loop := f.loop.close }

/-- Some steps lead from one to the other. -/
abbrev Reaches (interpret : σ → ε → Input × σ) (clock : Nat → Instant) (f g : Feed σ τ ε) : Prop :=
  ReflTransGen (Step interpret clock) f g

/--
A loop replays a script. It passes through the plays of the script, it can always go on to an end, and
it ends with the result and in the play of the script.
-/
structure Replays (interpret : σ → ε → Input × σ) (clock : Nat → Instant) (start : Feed σ τ ε)
    (script : List ε) : Prop where
  passes : ∀ f, Reaches interpret clock start f →
    f.passed <+: start.loop.controller.states interpret clock 0 script
  ends : ∀ f, Reaches interpret clock start f →
    ∃ g, Reaches interpret clock f g ∧ g.loop.result ≠ none
  ended : ∀ f r, Reaches interpret clock start f → f.loop.result = some r →
    start.loop.controller.states interpret clock 0 script = f.passed ∧
      start.loop.controller.scripted interpret clock 0 script = (r, f.loop.controller)

variable {interpret : σ → ε → Input × σ} {clock : Nat → Instant} {c : Controller σ τ}
  {f g : Feed σ τ ε} {events script rest : List ε}

/-! ## Along a script -/

/-- The loop has come along a script, of which `rest` is left. -/
structure OnTrack (interpret : σ → ε → Input × σ) (clock : Nat → Instant) (c : Controller σ τ)
    (script rest : List ε) (f : Feed σ τ ε) : Prop where
  going : f.loop.result = none →
    c.states interpret clock 0 script =
        f.passed ++ f.loop.controller.states interpret clock f.loop.interpreted.length rest ∧
      c.scripted interpret clock 0 script =
        f.loop.controller.scripted interpret clock f.loop.interpreted.length rest
  ended : ∀ r, f.loop.result = some r →
    c.states interpret clock 0 script = f.passed ∧
      c.scripted interpret clock 0 script = (r, f.loop.controller)

/-- All of the script is left to a loop that has not begun. -/
theorem onTrack_opening (c : Controller σ τ) (queue unsent script : List ε) :
    OnTrack interpret clock c script script { loop := { controller := c, queue }, unsent } where
  going _ := ⟨rfl, rfl⟩
  ended r h := absurd h (Option.some_ne_none r).symm

/-- What is left of the script does not matter to a loop that has ended. -/
theorem OnTrack.of_ended (h : f.OnTrack interpret clock c script rest) (hended : f.loop.result ≠ none)
    (rest' : List ε) : f.OnTrack interpret clock c script rest' where
  going hgoing := absurd hgoing hended
  ended := h.ended

/-- The loop and the script handle the same event. -/
theorem OnTrack.turn {event : ε} {queue : List ε}
    (h : f.OnTrack interpret clock c script (event :: rest)) (hgoing : f.loop.result = none)
    (hqueue : f.loop.queue = event :: queue) :
    (f.turn interpret clock).OnTrack interpret clock c script rest := by
  obtain ⟨hstates, hscripted⟩ := h.going hgoing
  rw [Feed.turn, EventLoop.step_of_queue hgoing hqueue rfl]
  constructor
  · intro hgoes
    rw [Controller.states_of_goes hgoes, List.append_cons] at hstates
    rw [Controller.scripted_of_goes hgoes] at hscripted
    simp only [List.length_append, List.length_singleton]
    exact ⟨hstates, hscripted⟩
  · intro r hends
    rw [Controller.states_of_ends hends] at hstates
    rw [Controller.scripted_of_ends hends] at hscripted
    exact ⟨hstates, hscripted⟩

/-- A loop ends well with its script. -/
theorem OnTrack.hangUp (h : f.OnTrack interpret clock c script []) (hgoing : f.loop.result = none) :
    OnTrack interpret clock c script [] { f with loop := f.loop.close } := by
  obtain ⟨hstates, hscripted⟩ := h.going hgoing
  have hclose : f.loop.close.result = some (.ok ()) := by rw [EventLoop.close, hgoing, Option.none_or]
  constructor
  · intro hnone
    rw [hclose] at hnone
    cases hnone
  · intro r hr
    rw [hclose] at hr
    cases hr
    exact ⟨hstates.trans (List.append_nil _), hscripted⟩

/-- The next step ends the loop or leaves less to do, so every loop can be brought to its end. -/
theorem exists_ended (interpret : σ → ε → Input × σ) (clock : Nat → Instant) (f : Feed σ τ ε) :
    ∃ g, Reaches interpret clock f g ∧ g.loop.result ≠ none := by
  -- An event that is not sent yet takes two steps, one that is queued takes one.
  induction hn : 2 * f.unsent.length + f.loop.queue.length using Nat.strong_induction_on
    generalizing f with
  | _ n ih =>
    by_cases hgoing : f.loop.result = none
    case neg => exact ⟨f, .refl, hgoing⟩
    by_cases hqueue : f.loop.queue = []
    · cases hunsent : f.unsent with
      | nil => exact ⟨_, .single (.hangUp hgoing hqueue hunsent), f.loop.result_close_ne_none⟩
      | cons event unsent =>
        have hless : 2 * unsent.length + (f.loop.receive [event]).queue.length < n := by
          simp only [EventLoop.receive, hqueue, hunsent, List.nil_append, List.length_cons,
            List.length_nil] at hn ⊢
          omega
        obtain ⟨g, hreaches, hended⟩ := ih _ hless { f with loop := f.loop.receive [event], unsent } rfl
        exact ⟨g, .head (.send hgoing hqueue hunsent) hreaches, hended⟩
    · have hstep : Step interpret clock f (f.turn interpret clock) := .turn hgoing hqueue
      rcases EventLoop.step_shortens interpret (clock f.loop.interpreted.length) f.loop with hended | hle
      · exact ⟨_, .single hstep, hended⟩
      · have hpos : 0 < f.loop.queue.length := List.length_pos_of_ne_nil hqueue
        have hless : 2 * (f.turn interpret clock).unsent.length +
            (f.turn interpret clock).loop.queue.length < n := by
          simp only [Feed.turn]
          omega
        obtain ⟨g, hreaches, hended⟩ := ih _ hless (f.turn interpret clock) rfl
        exact ⟨g, .head hstep hreaches, hended⟩

/-- A loop that stays on the track of a script replays it. -/
theorem replays_of_onTrack {start : Feed σ τ ε}
    (h : ∀ f, Reaches interpret clock start f →
      ∃ rest, f.OnTrack interpret clock start.loop.controller script rest) :
    start.Replays interpret clock script where
  passes f hf := by
    obtain ⟨rest, htrack⟩ := h f hf
    cases hresult : f.loop.result with
    | none =>
      rw [(htrack.going hresult).1]
      exact List.prefix_append ..
    | some r => rw [(htrack.ended r hresult).1]
  ends f _ := exists_ended interpret clock f
  ended f r hf hresult := by
    obtain ⟨rest, htrack⟩ := h f hf
    exact htrack.ended r hresult

/-! ## Events that are sent one by one -/

/-- How a loop stands whose events are sent one by one. -/
structure Patient (interpret : σ → ε → Input × σ) (clock : Nat → Instant) (c : Controller σ τ)
    (events : List ε) (f : Feed σ τ ε) : Prop where
  onTrack : f.OnTrack interpret clock c events (f.loop.queue ++ f.unsent)
  short : f.loop.queue.length ≤ 1
  dropped_eq : f.loop.dropped = []

theorem Patient.step (h : f.Patient interpret clock c events) (hstep : Step interpret clock f g) :
    g.Patient interpret clock c events := by
  cases hstep with
  | send hgoing hqueue hunsent =>
    obtain ⟨htrack, -, hdropped⟩ := h
    rw [hqueue, hunsent] at htrack
    refine ⟨?_, ?_, hdropped⟩
    · simp only [EventLoop.receive, hqueue]
      exact ⟨htrack.going, htrack.ended⟩
    · simp only [EventLoop.receive, hqueue, List.nil_append, List.length_singleton, le_refl]
  | turn hgoing hqueued =>
    obtain ⟨htrack, hshort, hdropped⟩ := h
    obtain ⟨event, hqueue⟩ : ∃ event, f.loop.queue = [event] := by
      apply List.length_eq_one_iff.1
      have := List.length_pos_of_ne_nil hqueued
      omega
    rw [hqueue] at htrack
    have hturn := OnTrack.turn htrack hgoing hqueue
    -- There is nothing behind the event, so it makes no difference whether the scene changes.
    rw [Feed.turn, EventLoop.step_of_queue hgoing hqueue rfl] at hturn ⊢
    simp only [hdropped, List.append_nil, ite_self] at hturn ⊢
    exact ⟨hturn, Nat.zero_le 1, rfl⟩
  | hangUp hgoing hqueue hunsent =>
    obtain ⟨htrack, hshort, hdropped⟩ := h
    rw [hqueue, hunsent] at htrack
    refine ⟨?_, hshort, hdropped⟩
    have hrest : f.loop.close.queue ++ f.unsent = [] := List.append_eq_nil_iff.2 ⟨hqueue, hunsent⟩
    rw [hrest]
    exact htrack.hangUp hgoing

theorem patient_of_reaches (h : Reaches interpret clock (patient c events) f) :
    f.Patient interpret clock c events := by
  induction h with
  | refl => exact ⟨onTrack_opening c [] events events, Nat.zero_le 1, rfl⟩
  | tail _ hstep ih => exact ih.step hstep

/-- **Sent one by one, all events are handled as in a script**, and none is dropped. -/
theorem replays_patient (interpret : σ → ε → Input × σ) (clock : Nat → Instant) (c : Controller σ τ)
    (events : List ε) : (patient c events).Replays interpret clock events := by
  apply replays_of_onTrack
  intro f hf
  exact ⟨_, (patient_of_reaches hf).onTrack⟩

/-! ## Events that are all sent beforehand -/

/-- How a loop stands that all events were sent to. -/
structure Hasty (interpret : σ → ε → Input × σ) (clock : Nat → Instant) (c : Controller σ τ)
    (events : List ε) (f : Feed σ τ ε) : Prop where
  onTrack : f.OnTrack interpret clock c (c.upToChange interpret clock 0 events)
    (f.loop.controller.upToChange interpret clock f.loop.interpreted.length f.loop.queue)
  unsent_eq : f.unsent = []

theorem Hasty.turn (h : f.Hasty interpret clock c events) (hgoing : f.loop.result = none)
    {event : ε} {queue : List ε} (hqueue : f.loop.queue = event :: queue) :
    (f.turn interpret clock).Hasty interpret clock c events := by
  obtain ⟨htrack, hnone⟩ := h
  rw [hqueue] at htrack
  refine ⟨?_, hnone⟩
  rcases hhandle : f.loop.controller.handle interpret event (clock f.loop.interpreted.length) with
    ⟨verdict, c'⟩
  have hverdict : (f.loop.controller.handle interpret event (clock f.loop.interpreted.length)).1 =
    verdict := congrArg Prod.fst hhandle
  have hloop : (f.turn interpret clock).loop = _ := EventLoop.step_of_queue hgoing hqueue hhandle
  -- What is left of the script is what is left of the queue, up to the next change of scene.
  cases verdict with
  | goesOn =>
    rw [Controller.upToChange_of_goesOn hverdict, hhandle] at htrack
    have hturn := htrack.turn hgoing hqueue
    simp only [hloop, List.length_append, List.length_singleton]
    exact hturn
  | changedScene =>
    rw [Controller.upToChange_of_changedScene hverdict] at htrack
    have hturn := htrack.turn hgoing hqueue
    rw [hloop]
    exact hturn
  | quits =>
    rw [Controller.upToChange_of_ends (congrArg Verdict.ending hverdict)] at htrack
    apply (htrack.turn hgoing hqueue).of_ended
    rw [hloop]
    exact Option.some_ne_none _
  | fails e =>
    rw [Controller.upToChange_of_ends (congrArg Verdict.ending hverdict)] at htrack
    apply (htrack.turn hgoing hqueue).of_ended
    rw [hloop]
    exact Option.some_ne_none _

theorem Hasty.step (h : f.Hasty interpret clock c events) (hstep : Step interpret clock f g) :
    g.Hasty interpret clock c events := by
  cases hstep with
  | send hgoing hqueue hunsent =>
    rw [h.unsent_eq] at hunsent
    cases hunsent
  | turn hgoing hqueued =>
    obtain ⟨event, queue, hqueue⟩ := List.exists_cons_of_ne_nil hqueued
    exact h.turn hgoing hqueue
  | hangUp hgoing hqueue hunsent =>
    obtain ⟨htrack, hnone⟩ := h
    rw [hqueue] at htrack
    refine ⟨?_, hnone⟩
    have hrest : f.loop.close.queue = [] := hqueue
    rw [hrest]
    exact htrack.hangUp hgoing

theorem hasty_of_reaches (h : Reaches interpret clock (beforehand c events) f) :
    f.Hasty interpret clock c events := by
  induction h with
  | refl => exact ⟨onTrack_opening c events [] _, rfl⟩
  | tail _ hstep ih => exact ih.step hstep

/-- **Sent beforehand, the events are handled as in a script up to the first change of scene.** -/
theorem replays_beforehand (interpret : σ → ε → Input × σ) (clock : Nat → Instant)
    (c : Controller σ τ) (events : List ε) :
    (beforehand c events).Replays interpret clock (c.upToChange interpret clock 0 events) := by
  apply replays_of_onTrack
  intro f hf
  exact ⟨_, (hasty_of_reaches hf).onTrack⟩

/-- A loop and a script of the same events agree, in either way of sending the events to the loop. -/
structure AgreesWithScript (interpret : σ → ε → Input × σ) (clock : Nat → Instant) (c : Controller σ τ)
    (events : List ε) : Prop where
  patient : (patient c events).Replays interpret clock events
  /-- Nothing is dropped that is sent when the loop waits for it. -/
  undropped : ∀ f, Reaches interpret clock (.patient c events) f → f.loop.dropped = []
  beforehand : (beforehand c events).Replays interpret clock (c.upToChange interpret clock 0 events)

theorem agreesWithScript (interpret : σ → ε → Input × σ) (clock : Nat → Instant) (c : Controller σ τ)
    (events : List ε) : AgreesWithScript interpret clock c events where
  patient := replays_patient interpret clock c events
  undropped _ hf := (patient_of_reaches hf).dropped_eq
  beforehand := replays_beforehand interpret clock c events

/-! ## Runs -/

/-- The turns of a run are steps, as long as there is something to handle. -/
theorem exists_reaches_repeat (interpret : σ → ε → Input × σ) (now : Instant) (c : Controller σ τ)
    (events : List ε) (n : Nat) :
    ∃ f, Reaches interpret (fun _ => now) (beforehand c events) f ∧
      f.loop = Nat.repeat (EventLoop.step interpret now []) n { controller := c, queue := events } := by
  induction n with
  | zero => exact ⟨_, .refl, rfl⟩
  | succ n ih =>
    obtain ⟨f, hf, hloop⟩ := ih
    rw [Nat.repeat, ← hloop]
    by_cases hidle : f.loop.result ≠ none ∨ f.loop.queue = []
    · exact ⟨f, hf, (EventLoop.step_of_idle hidle interpret now).symm⟩
    · obtain ⟨hgoing, hqueued⟩ := not_or.1 hidle
      exact ⟨_, hf.tail (.turn (not_not.1 hgoing) hqueued), rfl⟩

/-- A run is the loop that all events were sent to beforehand. -/
theorem exists_reaches_run (interpret : σ → ε → Input × σ) (now : Instant) (c : Controller σ τ)
    (events : List ε) :
    ∃ f, Reaches interpret (fun _ => now) (beforehand c events) f ∧
      f.loop = c.run interpret events now := by
  obtain ⟨f, hf, hloop⟩ := exists_reaches_repeat interpret now c events events.length
  have hrun : c.run interpret events now = f.loop.close := by rw [hloop]; rfl
  have hdone := EventLoop.ended_or_empty_of_turns interpret now { controller := c, queue := events }
    events.length
  rw [← hloop, Nat.sub_self, Nat.le_zero, List.length_eq_zero_iff] at hdone
  rw [hrun]
  cases hresult : f.loop.result with
  | none =>
    have hempty : f.loop.queue = [] := hdone.resolve_left (not_not.2 hresult)
    exact ⟨_, hf.tail (.hangUp hresult hempty (hasty_of_reaches hf).unsent_eq), rfl⟩
  | some r =>
    refine ⟨f, hf, ?_⟩
    rw [EventLoop.close, hresult, Option.some_or, ← hresult]

end Feed

end VisualNovel
