/-
  VisualNovel.Proofs.EventLoop.Conservation

  No event is lost, reordered or handled twice. However the sending of events and
  the turns of the loop are mixed, what was sent is at any time a row of rounds,
  each of an interpreted event and of those dropped behind it, and after them the
  queue (`Accounts`). The play is the one that the choices among the interpreted
  events make of it (`Conserves`). If all events are sent beforehand, the scene
  changes at most once, since nothing is left to handle then (`Settled`).
-/

import VisualNovel.Proofs.EventLoop.Rounds
import VisualNovel.Stage.Recorder
import VisualNovel.Store.Memory

namespace VisualNovel

open Time (Instant)

variable {σ τ γ ε : Type}

/-! ## Accounts -/

namespace EventLoop

/--
Why a loop has ended: its last round was the end, and what was sent after that event is still queued;
or it was left without senders.
-/
def Ends (sent : List ε) (rounds : List (Round ε)) (queue : List ε) (result : Except PlayError Unit) :
    Prop :=
  (∃ earlier last, rounds = earlier ++ [last] ∧ last.ending = some result ∧
    (∀ r ∈ earlier, r.ending = none) ∧ sent = earlier.flatMap Round.events ++ last.event :: queue) ∨
  result = .ok () ∧ ∀ r ∈ rounds, r.ending = none

/-- Every event that was sent is interpreted, dropped or queued, in the order of sending. -/
structure Accounts (sent : List ε) (rounds : List (Round ε)) (l : EventLoop σ τ ε) : Prop where
  sent_eq : sent = rounds.flatMap Round.events ++ l.queue
  interpreted_eq : l.interpreted = rounds.map Round.event
  dropped_eq : l.dropped = rounds.flatMap Round.dropped
  going : l.result = none → ∀ r ∈ rounds, r.ending = none
  ended : ∀ result, l.result = some result → Ends sent rounds l.queue result

theorem Ends.send {sent queue : List ε} {rounds : List (Round ε)} {result : Except PlayError Unit}
    (h : Ends sent rounds queue result) (more : List ε) :
    Ends (sent ++ more) rounds (queue ++ more) result := by
  rcases h with ⟨earlier, last, hrounds, hlast, hearlier, rfl⟩ | h
  · exact .inl ⟨earlier, last, hrounds, hlast, hearlier, List.append_assoc ..⟩
  · exact .inr h

variable {sent more : List ε} {rounds : List (Round ε)}

theorem Accounts.waits {l l' : EventLoop σ τ ε} (h : Accounts sent rounds l) (hw : l.Waits l' more) :
    Accounts (sent ++ more) rounds l' where
  sent_eq := by rw [hw.queue_eq, h.sent_eq, List.append_assoc]
  interpreted_eq := hw.interpreted_eq.trans h.interpreted_eq
  dropped_eq := hw.dropped_eq.trans h.dropped_eq
  going hgoing := by
    rcases hw.result_eq with hresult | ⟨hresult, -, -⟩
    · exact h.going (hresult.symm.trans hgoing)
    · exact h.going hresult
  ended result hresult' := by
    rw [hw.queue_eq]
    rcases hw.result_eq with hresult | ⟨hresult, hclosed, -⟩
    · exact (h.ended result (hresult.symm.trans hresult')).send more
    · rw [hclosed] at hresult'
      cases hresult'
      exact .inr ⟨rfl, h.going hresult⟩

/-- How a loop stands that nothing more is sent to. -/
structure Settled (rounds : List (Round ε)) (l : EventLoop σ τ ε) : Prop where
  changes_le : rounds.countP Round.isChange ≤ 1
  /-- A change of scene leaves nothing to handle. -/
  emptied : 0 < rounds.countP Round.isChange → l.queue = []
  /-- A loop that has ended has handled every event, unless a round was the end of it. -/
  spent : l.result = none ∨ l.queue = [] ∨ ∃ r ∈ rounds, r.ending = l.result

theorem Settled.waits {l l' : EventLoop σ τ ε} (h : Settled rounds l) (hw : l.Waits l' []) :
    Settled rounds l' where
  changes_le := h.changes_le
  emptied hchanged := by rw [hw.queue_eq, h.emptied hchanged, List.append_nil]
  spent := by
    rw [hw.queue_eq, List.append_nil]
    rcases hw.result_eq with hresult | ⟨-, -, hempty⟩
    · rw [hresult]
      exact h.spent
    · exact .inr (.inl hempty)

theorem result_close_ne_none (l : EventLoop σ τ ε) : l.close.result ≠ none := by
  cases h : l.result with
  | none => simp only [close, h, Option.none_or, ne_eq, reduceCtorEq, not_false_eq_true]
  | some result => simp only [close, h, Option.some_or, ne_eq, reduceCtorEq, not_false_eq_true]

variable [Presenter σ] [LedgerStore τ] {translate : Translation γ σ ε}

theorem Accounts.takes {l l' : EventLoop (Watched σ γ) τ ε} {r : Round ε} (h : Accounts sent rounds l)
    (ht : l.Takes translate l' more r) : Accounts (sent ++ more) (rounds ++ [r]) l' where
  sent_eq := by
    -- The round takes its events from the front of the queue, where the earlier rounds have stopped.
    rw [h.sent_eq, List.append_assoc, ht.queue_eq, List.flatMap_append, List.flatMap_singleton,
      List.append_assoc]
  interpreted_eq := by rw [ht.interpreted_eq, h.interpreted_eq, List.map_append, List.map_singleton]
  dropped_eq := by
    rw [ht.dropped_eq, h.dropped_eq, List.flatMap_append, List.flatMap_singleton]
  going hgoing := by
    rw [ht.result_eq] at hgoing
    intro r' hr'
    rcases List.mem_append.1 hr' with hr' | hr'
    · exact h.going ht.going r' hr'
    · cases List.mem_singleton.1 hr'
      exact hgoing
  ended result hresult := by
    rw [ht.result_eq] at hresult
    -- Only the last round can be an end, because the loop was going until then.
    refine .inl ⟨rounds, r, rfl, hresult, h.going ht.going, ?_⟩
    rw [h.sent_eq, List.append_assoc, ht.queue_eq, Round.events_of_ending hresult]
    rfl

/-! ## Plays of rounds -/

/-- The rounds of a loop: they account for all events, and they are those of a play that began as `c`. -/
structure Conserves (translate : Translation γ σ ε) (c : Controller σ τ) (memory : γ) (sent : List ε)
    (rounds : List (Round ε)) (l : EventLoop (Watched σ γ) τ ε) : Prop where
  accounts : Accounts sent rounds l
  /-- Each event was interpreted and dispatched in the play as it was by then. -/
  takePlace : Rounds translate c memory rounds l.controller.unwatched l.controller.presenter.notes
  /-- The play is what the choices make of it, in order. -/
  play_eq : l.controller.unwatched = c.after (rounds.flatMap Round.operations)
  note_eq : l.controller.presenter.note = Watched.keep

variable {translate : Translation γ σ ε} {c : Controller σ τ} {memory : γ} {sent : List ε}
  {rounds : List (Round ε)} {l l' : EventLoop (Watched σ γ) τ ε}

theorem conserves_opening (translate : Translation γ σ ε) (c : Controller σ τ) (memory : γ) :
    Conserves translate c memory [] [] (opening c memory) where
  accounts := ⟨rfl, rfl, rfl, fun _ => List.forall_mem_nil _, nofun⟩
  takePlace := .nil
  play_eq := rfl
  note_eq := rfl

theorem Conserves.waits {more : List ε} (h : Conserves translate c memory sent rounds l)
    (hw : l.Waits l' more) : Conserves translate c memory (sent ++ more) rounds l' where
  accounts := h.accounts.waits hw
  takePlace := by rw [hw.controller_eq]; exact h.takePlace
  play_eq := by rw [hw.controller_eq]; exact h.play_eq
  note_eq := by rw [hw.controller_eq]; exact h.note_eq

theorem Conserves.takes {more : List ε} {r : Round ε} (h : Conserves translate c memory sent rounds l)
    (ht : l.Takes translate l' more r) :
    Conserves translate c memory (sent ++ more) (rounds ++ [r]) l' where
  accounts := h.accounts.takes ht
  takePlace := by
    rw [ht.play_eq, ht.memory_eq]
    exact .snoc h.takePlace ht.fits
  play_eq := by
    rw [ht.play_eq, h.play_eq, List.flatMap_append, List.flatMap_singleton, Controller.after_append]
  note_eq := ht.note_eq

theorem Settled.takes {r : Round ε} (h : Settled rounds l) (ht : l.Takes translate l' [] r) :
    Settled (rounds ++ [r]) l' := by
  -- A round takes an event, so there was one left, and the scene had not changed before.
  have hqueue : l.queue ≠ [] := by
    intro hempty
    have htaken := ht.queue_eq
    rw [hempty] at htaken
    cases htaken
  have hunchanged : rounds.countP Round.isChange = 0 :=
    Nat.eq_zero_of_not_pos fun hchanged => hqueue (h.emptied hchanged)
  have hcount : (rounds ++ [r]).countP Round.isChange = if r.isChange then 1 else 0 := by
    rw [List.countP_append, hunchanged, Nat.zero_add, List.countP_singleton]
  have hlast : r ∈ rounds ++ [r] := List.mem_append_right rounds List.mem_cons_self
  refine ⟨?_, ?_, .inr (.inr ⟨r, hlast, ht.result_eq.symm⟩)⟩
  · rw [hcount]
    split <;> omega
  · intro hchanged
    rw [hcount] at hchanged
    split at hchanged
    · next hr => exact ht.emptied hr
    · exact absurd hchanged (Nat.lt_irrefl 0)

/-- **One moment** adds at most one round. -/
theorem Conserves.meet (h : Conserves translate c memory sent rounds l) (m : Moment ε) :
    ∃ rounds', Conserves translate c memory (sent ++ m.sent) rounds'
        (l.meet (Watched.interpret translate) m) ∧
      (m.sent = [] → Settled rounds l → Settled rounds' (l.meet (Watched.interpret translate) m)) := by
  rcases meet_cases h.note_eq m with hw | ⟨r, ht⟩
  · refine ⟨rounds, h.waits hw, ?_⟩
    intro hquiet hsettled
    rw [hquiet] at hw
    exact hsettled.waits hw
  · refine ⟨rounds ++ [r], h.takes ht, ?_⟩
    intro hquiet hsettled
    rw [hquiet] at ht
    exact hsettled.takes ht

theorem Conserves.meetAll (h : Conserves translate c memory sent rounds l) (moments : List (Moment ε)) :
    ∃ rounds', Conserves translate c memory (sent ++ moments.flatMap Moment.sent) rounds'
        (l.meetAll (Watched.interpret translate) moments) ∧
      ((∀ m ∈ moments, m.sent = []) → Settled rounds l →
        Settled rounds' (l.meetAll (Watched.interpret translate) moments)) := by
  induction moments generalizing sent rounds l with
  | nil =>
    rw [List.flatMap_nil, List.append_nil]
    exact ⟨rounds, h, fun _ hsettled => hsettled⟩
  | cons m moments ih =>
    obtain ⟨rounds₁, hm, hsettled₁⟩ := h.meet m
    obtain ⟨rounds₂, hmoments, hsettled₂⟩ := ih hm
    rw [List.flatMap_cons, ← List.append_assoc]
    refine ⟨rounds₂, hmoments, ?_⟩
    intro hquiet hsettled
    rw [List.forall_mem_cons] at hquiet
    exact hsettled₂ hquiet.2 (hsettled₁ hquiet.1 hsettled)

/-! ## Events that are all sent beforehand -/

/-- A turn that nothing is sent in ends the loop or leaves fewer events. -/
theorem step_shortens (interpret : σ → ε → Input × σ) (now : Instant) (l : EventLoop σ τ ε) :
    (l.step interpret now []).result ≠ none ∨
      (l.step interpret now []).queue.length ≤ l.queue.length - 1 := by
  cases hgoing : l.result with
  | some result =>
    rw [step_of_ended interpret now [] hgoing]
    exact .inl fun hresult => Option.some_ne_none result (hgoing.symm.trans hresult)
  | none =>
    cases hqueue : l.queue with
    | nil =>
      right
      simp only [step, hgoing, hqueue, receive, List.append_nil, List.length_nil, Nat.le_refl]
    | cons event queue =>
      rcases hhandle : l.controller.handle interpret event now with ⟨verdict, c'⟩
      simp only [step, hgoing, hqueue, hhandle, List.append_nil]
      cases verdict with
      | goesOn => exact .inr (Nat.le_refl _)
      | changedScene => exact .inr (Nat.zero_le _)
      | quits => exact .inl (Option.some_ne_none _)
      | fails e => exact .inl (Option.some_ne_none _)

/-- After as many turns as there were events the loop has ended, or no event is left. -/
theorem ended_or_empty_of_turns (interpret : σ → ε → Input × σ) (now : Instant) (l : EventLoop σ τ ε)
    (n : Nat) :
    (Nat.repeat (step interpret now []) n l).result ≠ none ∨
      (Nat.repeat (step interpret now []) n l).queue.length ≤ l.queue.length - n := by
  induction n with
  | zero => exact .inr (Nat.le_refl _)
  | succ n ih =>
    rw [Nat.repeat]
    generalize Nat.repeat (step interpret now []) n l = ln at *
    rcases ih with hended | hshort
    · obtain ⟨result, hresult⟩ := Option.ne_none_iff_exists'.1 hended
      rw [step_of_ended interpret now [] hresult]
      exact .inl hended
    · rcases step_shortens interpret now ln with h | h
      · exact .inl h
      · exact .inr (by omega)

theorem repeat_step (interpret : σ → ε → Input × σ) (now : Instant) (l : EventLoop σ τ ε) (n : Nat) :
    Nat.repeat (step interpret now []) n l =
      l.meetAll interpret (List.replicate n (.turn now [])) := by
  induction n with
  | zero => rfl
  | succ n ih =>
    rw [Nat.repeat, ih, List.replicate_succ', meetAll, meetAll, List.foldl_append]
    rfl

theorem meet_hangUp (interpret : σ → ε → Input × σ) {l : EventLoop σ τ ε}
    (h : l.result ≠ none ∨ l.queue = []) : l.meet interpret .hangUp = l.close := by
  rw [meet]
  split
  · rfl
  · next hqueue =>
    rcases h with hended | hempty
    · obtain ⟨result, hresult⟩ := Option.ne_none_iff_exists'.1 hended
      obtain ⟨c, queue, interpreted, dropped, _⟩ := l
      cases hresult
      rfl
    · rw [hempty] at hqueue
      exact absurd rfl hqueue

/-- To run a loop is to send it all events, to give it its turns, and to hang up. -/
theorem run_eq_meetAll (c : Controller σ τ) (interpret : σ → ε → Input × σ) (events : List ε)
    (now : Instant) :
    c.run interpret events now = meetAll interpret { controller := c, queue := [] }
      (.arrival events :: (List.replicate events.length (.turn now []) ++ [.hangUp])) := by
  -- After a turn for each event, to hang up is to close, and that is how a run ends.
  have hdone := ended_or_empty_of_turns interpret now { controller := c, queue := events } events.length
  rw [Nat.sub_self, Nat.le_zero, List.length_eq_zero_iff] at hdone
  calc c.run interpret events now
    _ = meet interpret (Nat.repeat (step interpret now []) events.length
          { controller := c, queue := events }) .hangUp := (meet_hangUp interpret hdone).symm
    _ = meet interpret (meetAll interpret { controller := c, queue := events }
          (List.replicate events.length (.turn now []))) .hangUp := by rw [repeat_step]
    _ = meetAll interpret { controller := c, queue := events }
          (List.replicate events.length (.turn now []) ++ [.hangUp]) := by
        rw [meetAll, meetAll, List.foldl_append]
        rfl

/-! ## Conservation -/

/-- A loop that is sent all its events first is settled from then on. -/
theorem exists_settled_of_quiet (translate : Translation γ σ ε) (c : Controller σ τ) (memory : γ)
    (events : List ε) {moments : List (Moment ε)} (hmoments : ∀ m ∈ moments, m.sent = []) :
    ∃ rounds, Conserves translate c memory events rounds
        (meetAll (Watched.interpret translate) (opening c memory) (.arrival events :: moments)) ∧
      Settled rounds
        (meetAll (Watched.interpret translate) (opening c memory) (.arrival events :: moments)) := by
  have hsent : moments.flatMap Moment.sent = [] := List.flatMap_eq_nil_iff.2 hmoments
  have harrived : Conserves translate c memory events [] ((opening c memory).receive events) :=
    (conserves_opening translate c memory).waits ⟨rfl, rfl, rfl, rfl, .inl rfl⟩
  obtain ⟨rounds, hconserves, hsettled⟩ := harrived.meetAll moments
  rw [hsent, List.append_nil] at hconserves
  -- Nothing has happened yet when the events have arrived.
  exact ⟨rounds, hconserves, hsettled hmoments ⟨Nat.zero_le 1, nofun, .inl rfl⟩⟩

/--
**No event is lost.** However the sending of events and the turns of a loop are mixed, its rounds
account at any time for all that was sent, and the play is the one that they make of it. If all events
are sent beforehand, the scene changes once at most; and a loop that is run in this way ends, with
every event handled unless one of them was the end.
-/
theorem exists_conserves (translate : Translation γ σ ε) (c : Controller σ τ) (memory : γ) :
    (∀ moments : List (Moment ε), ∃ rounds, Conserves translate c memory (moments.flatMap Moment.sent)
      rounds (meetAll (Watched.interpret translate) (opening c memory) moments)) ∧
    (∀ (events : List ε) (moments : List (Moment ε)), (∀ m ∈ moments, m.sent = []) →
      let l := meetAll (Watched.interpret translate) (opening c memory) (.arrival events :: moments)
      ∃ rounds, Conserves translate c memory events rounds l ∧ Settled rounds l) ∧
    ∀ (events : List ε) (now : Instant),
      let l := (c.watched Watched.keep memory).run (Watched.interpret translate) events now
      l.result ≠ none ∧ ∃ rounds, Conserves translate c memory events rounds l ∧ Settled rounds l := by
  refine ⟨?_, ?_, ?_⟩
  · intro moments
    obtain ⟨rounds, hconserves, -⟩ := (conserves_opening translate c memory).meetAll moments
    exact ⟨rounds, hconserves⟩
  · intro events moments hmoments
    exact exists_settled_of_quiet translate c memory events hmoments
  · intro events now l
    refine ⟨result_close_ne_none _, ?_⟩
    have hl : l = meetAll (Watched.interpret translate) (opening c memory) _ :=
      run_eq_meetAll (c.watched Watched.keep memory) (Watched.interpret translate) events now
    rw [hl]
    apply exists_settled_of_quiet
    -- Neither the turns of a run nor its end send anything.
    intro m hm
    rcases List.mem_append.1 hm with hm | hm
    · rw [List.eq_of_mem_replicate hm]
      rfl
    · cases List.mem_singleton.1 hm
      rfl

/-- Keys that start the story, go home and quit; the translation counts them. -/
def keys : Translation Nat Recorder Char := fun count _ key =>
  match key with
  | 's' => (.choice (.start .default), count + 1)
  | 'h' => (.choice (.passage 2), count + 1)
  | 'q' => (.quit, count + 1)
  | _ => (.skip, count + 1)

/--
The keys that follow a start are dropped with it, whether they were queued already or came in the
meantime, and those after the end of the loop are queued.
-/
theorem exists_conserves_keys :
    let noon : Instant := ⟨⟨2024, 2, 29, by decide⟩, 43200, 0, by decide⟩
    let c := (Controller.brief {} MemoryStore.empty).after [(.start, noon)]
    let ready := meetAll (Watched.interpret keys) (opening c 0)
    let silence : List (Moment Char) := [.turn noon [], .turn noon [], .turn noon [], .hangUp]
    let bustle : List (Moment Char) := [.arrival ['s', 'h'], .turn noon ['h'], .arrival ['?', 'q'],
      .turn noon ['h'], .turn noon [], .turn noon ['s']]
    let quiet := ready (.arrival ['?', 's', 'h'] :: silence)
    let busy := ready bustle
    (∃ rounds, Conserves keys c 0 ['?', 's', 'h'] rounds quiet ∧ Settled rounds quiet) ∧
    (quiet.interpreted = ['?', 's'] ∧ quiet.dropped = ['h'] ∧ quiet.queue = []) ∧
    (∃ rounds, Conserves keys c 0 ['s', 'h', 'h', '?', 'q', 'h', 's'] rounds busy) ∧
    busy.interpreted = ['s', '?', 'q'] ∧ busy.dropped = ['h', 'h'] ∧ busy.queue = ['h', 's'] := by
  intro noon c ready silence bustle quiet busy
  obtain ⟨hmixed, hquiet, -⟩ := exists_conserves keys c 0
  have hsilent : ∀ m ∈ silence, m.sent = [] := by simp [silence, Moment.sent]
  exact ⟨hquiet ['?', 's', 'h'] silence hsilent, by decide +kernel, hmixed bustle, by decide +kernel⟩

end EventLoop

end VisualNovel
