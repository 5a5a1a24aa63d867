/-
  VisualNovel.Proofs.Scene.Refusals

  What a failure leaves behind. A choice that is ignored or names no passage leaves
  the play as it was, and so does a refusal to get ready. A transition that is
  refused later on ends the play (`Idle`): no scene is active, and choices have no
  effect any more. Then the ledger and the store are as before, or one ending was
  traversed on the way, which is in both of them (`Concluded`).
-/

import VisualNovel.Proofs.Scene.Trail

namespace VisualNovel.Controller

open Time (Instant)

variable {σ τ : Type}

/-! ## Records after a failure -/

/-- The passage that an operation arrives at, if it arrives anywhere. -/
def destination? (c : Controller σ τ) (op : Operation) : Option Passage :=
  (c.call? op).bind fun call => c.scenario.story.get? (call.target c.scenario.story)

section Records

variable [LedgerStore τ]

/--
The records of a play after an ending was traversed. The ending is marked, no other name is touched,
and then all records were written to the store once, encoded and under the configured key.
-/
structure Concluded (c c' : Controller σ τ) (p : Passage) (now : Instant) : Prop where
  isEnding : p.isEnding = true
  ledger_eq : c'.ledger = c.ledger.markReached p.name (p.outcome.map (·.tag)) now
  reached : c'.ledger.isReached p.name = true
  others : ∀ name, name ≠ p.name → c'.ledger.get? name = c.ledger.get? name
  store_eq : c'.store =
    (LedgerStore.write c.store c.scenario.config.ledgerKey c'.ledger.entries.encode).2

/-- The records are as before, or the ending that was to be arrived at is in them. -/
def ConcludedAtMost (c c' : Controller σ τ) (p? : Option Passage) (now : Instant) : Prop :=
  (c'.ledger = c.ledger ∧ c'.store = c.store) ∨ ∃ p, p? = some p ∧ c.Concluded c' p now

theorem ConcludedAtMost.congr {c c' d : Controller σ τ} {p? : Option Passage} {now : Instant}
    (h : c.ConcludedAtMost c' p? now) (hledger : d.ledger = c'.ledger) (hstore : d.store = c'.store) :
    c.ConcludedAtMost d p? now := by
  rw [ConcludedAtMost, hledger, hstore]
  rcases h with hsame | ⟨p, hp, hconcluded⟩
  · exact .inl hsame
  · refine .inr ⟨p, hp, hconcluded.isEnding, ?_, ?_, ?_, ?_⟩
    · rw [hledger, hconcluded.ledger_eq]
    · rw [hledger]
      exact hconcluded.reached
    · rw [hledger]
      exact hconcluded.others
    · rw [hledger, hstore]
      exact hconcluded.store_eq

theorem concludedAtMost_noting (c : Controller σ τ) (p : Passage) (now : Instant) :
    c.ConcludedAtMost (c.noting p now) (some p) now := by
  cases hend : p.isEnding with
  | false =>
    rw [noting_of_not_ending hend]
    exact .inl ⟨rfl, rfl⟩
  | true =>
    obtain ⟨o, ho, hcat⟩ := Passage.isEnding_eq_true_iff.1 hend
    have hledger : (c.noting p now).ledger = c.ledger.markReached p.name (some o.tag) now := by
      rw [noting_of_ending ho hcat]
      rfl
    refine .inr ⟨p, rfl, hend, ?_, ?_, ?_, ?_⟩
    · rw [hledger, ho]
      rfl
    · rw [hledger, Ledger.isReached_markReached]
      exact .inl rfl
    · intro name hname
      rw [hledger, Ledger.get?_markReached, if_neg hname]
    · rw [noting_of_ending ho hcat]
      rfl

end Records

/-! ## Plays without an active scene -/

section Playing

variable [Presenter σ] [LedgerStore τ]

/-- Whatever is chosen, all of it is ignored, nothing changes, and nothing is asked of the presentation. -/
def Idle (c : Controller σ τ) : Prop :=
  ∀ choices : List (UserChoice × Instant),
    let ops := choices.map fun choice => (Operation.dispatch choice.1, choice.2)
    c.answers ops = choices.map (fun _ => .ok (some .ignored)) ∧ c.after ops = c ∧ c.issued ops = []

theorem dispatch_of_inactive {c : Controller σ τ} (h : c.active = none) (choice : UserChoice)
    (now : Instant) : c.dispatch choice now = (.ok .ignored, c) := by
  have haccepts : c.accepts choice = false := by simp only [accepts, h]
  exact dispatch_of_not_accepts haccepts now

/-- Without an active scene a play is idle. -/
theorem idle_of_inactive {c : Controller σ τ} (h : c.active = none) : c.Idle := by
  have hafter : ∀ {σ : Type} [Presenter σ] {c : Controller σ τ}, c.active = none →
      ∀ choices : List (UserChoice × Instant),
        c.after (choices.map fun choice => (Operation.dispatch choice.1, choice.2)) = c := by
    intro σ _ c hc choices
    induction choices with
    | nil => rfl
    | cons choice choices ih =>
      rw [List.map_cons, after_cons, operate_dispatch, dispatch_of_inactive hc]
      exact ih
  intro choices ops
  refine ⟨?_, hafter h choices, ?_⟩
  · show c.answers (choices.map _) = _
    induction choices with
    | nil => rfl
    | cons choice choices ih =>
      have hop : c.operate (.dispatch choice.1) choice.2 = (.ok (some .ignored), c) := by
        rw [operate, dispatch_of_inactive h, Reply.andThen_ok]
      rw [List.map_cons, answers, hop, ih, List.map_cons]
  · rw [issued, hafter (c := c.watched Watched.jot []) h choices]
    rfl

/-- A play that a refused transition has ended. -/
structure Abandoned (c c' : Controller σ τ) (p? : Option Passage) (now : Instant) : Prop where
  inactive : c'.active = none
  idle : c'.Idle
  records : c.ConcludedAtMost c' p? now

/-- If a script is not asked for as a whole, the play has ended. -/
theorem abandoned_enact {α : Type} {c c₀ : Controller σ τ} {p? : Option Passage} {now : Instant}
    (hrecords : c.ConcludedAtMost c₀ p? now) {ds : List Directive} {scene : Scene} {answer : α}
    {e : PlayError} (h : (c₀.enact ds scene answer).1 = .error e) :
    c.Abandoned (c₀.enact ds scene answer).2 p? now := by
  rcases c₀.enact_cases ds scene answer with hall | ⟨part, e', -, hrefused⟩
  · rw [hall] at h
    cases h
  · rw [hrefused]
    exact ⟨rfl, idle_of_inactive rfl, hrecords.congr rfl rfl⟩

theorem abandoned_switchTo {c : Controller σ τ} {target : SceneTarget} {now : Instant} {e : PlayError}
    (h : (c.switchTo target now).1 = .error e) :
    c.Abandoned (c.switchTo target now).2 (c.destination? (.switchTo target)) now := by
  by_cases hscene : c.activeScene = some target.id
  · rw [switchTo, if_pos hscene] at h
    cases h
  · cases target with
    | splash =>
      rw [switchTo_splash hscene] at h ⊢
      exact abandoned_enact (.inl ⟨rfl, rfl⟩) h
    | gameOver ending =>
      rw [switchTo_gameOver hscene] at h ⊢
      exact abandoned_enact (.inl ⟨rfl, rfl⟩) h
    | prompts v =>
      have hdestination : c.destination? (.switchTo (.prompts v)) =
          some (c.scenario.story.startPassage v) := by
        rw [destination?, call?_switchTo_prompts hscene]
        exact c.scenario.story.get?_startOf v
      rw [hdestination]
      rcases switchTo_prompts_cases hscene now with ⟨part, e', -, hrefused⟩ | ⟨c', rfl, hentered⟩
      · rw [hrefused]
        exact ⟨rfl, idle_of_inactive rfl, .inl ⟨rfl, rfl⟩⟩
      · rw [hentered] at h ⊢
        apply abandoned_enact _ h
        rw [noting_asked]
        exact (c.concludedAtMost_noting _ now).congr rfl rfl

/-- A refused transition ends the play; a choice that is not followed is no such refusal. -/
theorem abandoned_dispatch {c : Controller σ τ} {choice : UserChoice} {now : Instant}
    {e : PresentationError} (h : (c.dispatch choice now).1 = .error (.presentation e)) :
    c.Abandoned (c.dispatch choice now).2 (c.destination? (.dispatch choice)) now := by
  rcases c.dispatch_cases choice now with ⟨-, hd⟩ | ⟨s, id, e', -, -, -, hd⟩ |
    ⟨v, haccepts, hcall, hscene, hd⟩ | ⟨s, id, p, c', hactive, rfl, hp, rfl, hd⟩
  · rw [hd] at h
    cases h
  · rw [hd] at h
    cases h
  · have hdestination : c.destination? (.dispatch choice) = c.destination? (.switchTo (.prompts v)) := by
      rw [destination?, destination?, call?_dispatch haccepts, hcall, call?_switchTo_prompts hscene]
    have hswitch : (c.switchTo (.prompts v) now).1 = .error (.presentation e) := by
      rw [hd] at h
      rcases hreply : c.switchTo (.prompts v) now with ⟨answer, c'⟩
      rw [hreply] at h
      cases answer with
      | ok u => cases h
      | error e' =>
        cases h
        rfl
    rw [hd, Reply.snd_andThen, hdestination]
    exact abandoned_switchTo hswitch
  · have hdestination : c.destination? (.dispatch (.passage id)) = some p := by
      rw [destination?, call?_dispatch_passage hactive]
      exact hp
    rw [hd] at h ⊢
    rw [hdestination]
    exact abandoned_enact (c.concludedAtMost_noting p now) h

/-- A choice that is ignored, or refused by the session, leaves the play as it was. -/
theorem dispatch_unchanged {c : Controller σ τ} {choice : UserChoice} {now : Instant}
    (h : (c.dispatch choice now).1 = .ok .ignored ∨
      ∃ e, (c.dispatch choice now).1 = .error (.session e)) :
    (c.dispatch choice now).2 = c := by
  -- Whatever is done by scripts is answered in another way.
  have henacted : ∀ {c' : Controller σ τ} {ds : List Directive} {scene : Scene} {d : Dispatch},
      d ≠ .ignored → ¬ ((c'.enact ds scene d).1 = .ok .ignored ∨
        ∃ e, (c'.enact ds scene d).1 = .error (.session e)) := by
    intro c' ds scene d hd hanswer
    rcases c'.enact_cases ds scene d with hall | ⟨part, e, -, hrefused⟩
    · rw [hall] at hanswer
      rcases hanswer with hanswer | ⟨e, hanswer⟩
      · exact hd (Except.ok.inj hanswer)
      · cases hanswer
    · rw [hrefused] at hanswer
      rcases hanswer with hanswer | ⟨e', hanswer⟩
      · cases hanswer
      · cases hanswer
  rcases c.dispatch_cases choice now with ⟨-, hd⟩ | ⟨s, id, e, -, -, -, hd⟩ |
    ⟨v, -, -, hscene, hd⟩ | ⟨s, id, p, c', -, -, -, -, hd⟩
  · rw [hd]
  · rw [hd]
  · rw [hd] at h
    rcases switchTo_prompts_cases hscene now with ⟨part, e, -, hrefused⟩ | ⟨c', -, hentered⟩
    · rw [hrefused] at h
      rcases h with h | ⟨e', h⟩
      · cases h
      · cases h
    · rw [hentered, enact_andThen] at h
      have hne : Dispatch.transitioned ≠ .ignored := by decide
      exact absurd h (henacted hne)
  · rw [hd] at h
    refine absurd h (henacted ?_)
    rw [arrivalAnswer]
    split
    · decide
    · decide

/-- To be watched changes no answer. -/
theorem answer_dispatch_watched (c : Controller σ τ) (choice : UserChoice) (now : Instant) :
    ((c.watched Watched.jot []).dispatch choice now).1 = (c.dispatch choice now).1 := by
  have hlockstep : Lockstep c.scenario now now (Watches (σ := σ) Watched.jot fun _ => True)
      (SameRecords (τ := τ)) :=
    lockstep_watched c.scenario now fun _ _ h => h
  exact (hlockstep.agree_dispatch (alike_unwatched (c := c.watched Watched.jot []) rfl trivial) choice).1

/-- Nothing is asked of the presentation for such a choice. -/
theorem issued_unchanged {c : Controller σ τ} {choice : UserChoice} {now : Instant}
    (h : (c.dispatch choice now).1 = .ok .ignored ∨
      ∃ e, (c.dispatch choice now).1 = .error (.session e)) :
    c.issued [(.dispatch choice, now)] = [] := by
  rw [← answer_dispatch_watched] at h
  rw [issued, after_cons, after_nil, operate_dispatch, dispatch_unchanged h]
  rfl

/-! ## All failures -/

/--
**What a failure leaves behind.** A choice that is ignored or names no passage leaves all as it was,
and nothing is asked of the presentation for it. A refusal to get ready is known to the presentation
only. Any other refusal leaves no scene active, and choices are ignored from then on. The ledger is
unchanged, or the one ending that was arrived at has been marked in it and stored.
-/
theorem left_by_failure (c : Controller σ τ) (now : Instant) :
    (∀ choice, ((c.dispatch choice now).1 = .ok .ignored ∨
        ∃ id, (c.dispatch choice now).1 = .error (.session (.story (.notFound id)))) →
      (c.dispatch choice now).2 = c ∧ c.issued [(.dispatch choice, now)] = []) ∧
    (∀ e, (Presenter.perform c.presenter .prepare).1 = .error e →
      c.start now = (.error (.presentation e), c.asked [.transition .prepare])) ∧
    (∀ choice e, (c.dispatch choice now).1 = .error (.presentation e) →
      c.Abandoned (c.dispatch choice now).2 (c.destination? (.dispatch choice)) now) ∧
    ∀ target e, (c.switchTo target now).1 = .error (.presentation e) →
      c.Abandoned (c.switchTo target now).2 (c.destination? (.switchTo target)) now := by
  refine ⟨?_, ?_, fun choice e h => abandoned_dispatch h, fun target e h => abandoned_switchTo h⟩
  · intro choice hanswer
    have hunchanged : (c.dispatch choice now).1 = .ok .ignored ∨
        ∃ e, (c.dispatch choice now).1 = .error (.session e) := by
      rcases hanswer with hignored | ⟨id, hnotFound⟩
      · exact .inl hignored
      · exact .inr ⟨_, hnotFound⟩
    exact ⟨dispatch_unchanged hunchanged, issued_unchanged hunchanged⟩
  · intro e he
    rcases c.perform_cases .prepare with ⟨hok, -⟩ | ⟨e', he', ht⟩
    · cases hok.symm.trans he
    · cases he'.symm.trans he
      rw [start, ht, Reply.andThen_error]

/-- The way home ends with a refusal to leave the prompts; by then it is in the ledger and in the store. -/
theorem left_by_failure_home :
    let c := (brief (Recorder.refusingAt [(.exit .prompts, 1)]) MemoryStore.empty).after
      (Operation.brief.take 2)
    let c' := (c.dispatch (.passage 2) .newYear).2
    (c.dispatch (.passage 2) .newYear).1 = .error (.presentation ⟨"exit prompts failed"⟩) ∧
      c'.active = none ∧ c'.ledger = c.ledger.markReached "Home" (some "Good-End") .newYear ∧
      c'.ledger.isReached "Home" = true ∧
      c'.store = (LedgerStore.write c.store "endings" c'.ledger.entries.encode).2 := by
  intro c c'
  have hrefused : (c.dispatch (.passage 2) .newYear).1 =
      .error (.presentation ⟨"exit prompts failed"⟩) := by
    decide +kernel
  have habandoned := (left_by_failure c .newYear).2.2.1 (.passage 2) _ hrefused
  have hdestination : c.destination? (.dispatch (.passage 2)) = some Story.brief.passages[1] := by
    decide +kernel
  have hchanged : c'.ledger ≠ c.ledger := by decide +kernel
  rcases habandoned.records with ⟨hledger, -⟩ | ⟨p, hp, hconcluded⟩
  · exact absurd hledger hchanged
  · rw [hdestination] at hp
    cases hp
    exact ⟨hrefused, habandoned.inactive, hconcluded.ledger_eq, hconcluded.reached, hconcluded.store_eq⟩

end Playing

end VisualNovel.Controller
