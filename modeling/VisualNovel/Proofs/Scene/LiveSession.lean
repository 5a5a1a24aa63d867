/-
  VisualNovel.Proofs.Scene.LiveSession

  Whenever the prompts are active between two operations, their session is live:
  it stands at a passage that leads on. A session at an ending is the active one
  only while it is on its way out, and it is given up before the exit is asked
  for. So of all errors only a refusal of the presentation can occur, and a
  choice of a number that the story does not have.
-/

import VisualNovel.Proofs.Scene.Operations
import VisualNovel.Stage.Recorder
import VisualNovel.Store.Memory

namespace VisualNovel

open Time (Instant)

namespace Controller

variable {σ τ : Type} {sc : Scenario} {c : Controller σ τ}

/-- A play of the scenario whose session, if there is one, is live. -/
def HasLive (sc : Scenario) (c : Controller σ τ) : Prop :=
  c.scenario = sc ∧ ∀ s, c.active = some (.prompts s) → s.Live sc

theorem hasLive_of_inactive (hsc : c.scenario = sc) (hactive : c.active = none) : c.HasLive sc := by
  refine ⟨hsc, ?_⟩
  intro s hs
  rw [hactive] at hs
  cases hs

end Controller

/-- The errors that an operation may end with. -/
def Operation.Expects (sc : Scenario) (op : Operation) (e : PlayError) : Prop :=
  (∃ refusal, e = .presentation refusal) ∨
    ∃ id, op = .dispatch (.passage id) ∧ ¬ IsIdBelow sc.story.passages.length id ∧
      e = .session (.story (.notFound id))

namespace Controller

variable {σ τ : Type} [Presenter σ] [LedgerStore τ]

/-- What the moves of a play have to do with its session. -/
theorem moves_live (sc : Scenario) (op : Operation) (now : Instant) : Moves (σ := σ) (τ := τ) sc op now
    (fun c => c.HasLive sc)
    (fun c => c.scenario = sc)
    (fun c => c.scenario = sc ∧ c.active = none)
    (fun s _ => s.tally.CountsPaths)
    (fun e c => c.HasLive sc ∧ op.Expects sc e) := by
  constructor
  case scenario => exact fun c hc => hc.1
  case prepare =>
    intro c hc
    apply perform_ensures
    · intro p _
      exact hc
    · intro e p _
      exact ⟨hc, .inl ⟨e, rfl⟩⟩
  case leaves => exact fun c hc => hc.1
  case leave =>
    intro c hsc
    apply leave_ensures
    · intro hnone
      exact ⟨hsc, hnone⟩
    · intro scene p _ _
      exact ⟨hsc, rfl⟩
    · -- The session may have been at an ending; it is given up, refused or not.
      intro scene e p _ _
      exact ⟨hasLive_of_inactive hsc rfl, .inl ⟨e, rfl⟩⟩
  case enterScene =>
    rintro c ds scene ⟨hsc, hnone⟩ hscene
    apply enterScene_ensures
    · intro p _
      refine ⟨hsc, ?_⟩
      intro s hs
      exact absurd (Option.some.inj hs) (hscene s)
    · intro e p _
      exact ⟨hasLive_of_inactive hsc hnone, .inl ⟨e, rfl⟩⟩
  case enterPrompts =>
    rintro c ⟨hsc, hnone⟩
    apply perform_ensures
    · intro p _
      exact ⟨hsc, Tally.countsPaths_empty⟩
    · intro e p _
      exact ⟨hasLive_of_inactive hsc hnone, .inl ⟨e, rfl⟩⟩
  case arrives => exact fun c s hc hs => (hc.2 s hs).2
  case stay =>
    intro c s id p htally hsc hget hp ds
    rw [displayAll_eq]
    refine ⟨hsc, ?_⟩
    intro s' hs'
    cases hs'
    exact Session.live_at htally hget hp
  case finish => exact fun c s id p o _ hsc _ _ _ => hsc
  case refuse =>
    intro c s id e hop hc hs he
    refine ⟨hc, .inr ⟨id, hop, ?_⟩⟩
    -- A live session has begun, so only the number can be wrong.
    have hcurrent := (hc.2 s hs).current_ne_none
    rcases s.choose_cases c.scenario c.ledger id now with ⟨h, -⟩ | ⟨-, hid, h⟩ | ⟨-, p, -, h⟩
    · exact absurd h hcurrent
    · rw [h] at he
      cases he
      rw [hc.1] at hid
      exact ⟨hid, rfl⟩
    · rw [h] at he
      cases he

theorem hasLive_after {sc : Scenario} {c : Controller σ τ} (hc : c.HasLive sc)
    (ops : List (Operation × Instant)) : (c.after ops).HasLive sc := by
  have hfailed : ∀ (op : Operation) (e : PlayError) (c : Controller σ τ),
      c.HasLive sc ∧ op.Expects sc e → c.HasLive sc := fun _ _ _ h => h.1
  exact after_of_moves (moves_live sc) hfailed hc ops

/--
**Sessions are live.** After any operations on a play that began without an active scene, the session
of the prompts stands at a passage of the story that is no ending and has met nothing but paths. So
the next operation succeeds, is refused by the presentation, or was the choice of a number that the
story does not have.
-/
theorem live_after {c : Controller σ τ} (hactive : c.active = none) (ops : List (Operation × Instant)) :
    (∀ s, (c.after ops).active = some (.prompts s) → s.Live c.scenario) ∧
    (∀ now e, ((c.after ops).start now).1 = .error e → ∃ refusal, e = .presentation refusal) ∧
    (∀ target now e, ((c.after ops).switchTo target now).1 = .error e →
      ∃ refusal, e = .presentation refusal) ∧
    ∀ choice now e, ((c.after ops).dispatch choice now).1 = .error e →
      (∃ refusal, e = .presentation refusal) ∨
      ∃ id, choice = .passage id ∧ ¬ IsIdBelow c.scenario.story.passages.length id ∧
        e = .session (.story (.notFound id)) := by
  have hlive : (c.after ops).HasLive c.scenario := hasLive_after (hasLive_of_inactive rfl hactive) ops
  refine ⟨hlive.2, ?_, ?_, ?_⟩
  · intro now e he
    have hfailed := ((moves_live c.scenario .start now).start hlive).of_error he
    rcases hfailed.2 with h | ⟨id, hop, -⟩
    · exact h
    · cases hop
  · intro target now e he
    have hfailed := ((moves_live c.scenario (.switchTo target) now).switchTo hlive target).of_error he
    rcases hfailed.2 with h | ⟨id, hop, -⟩
    · exact h
    · cases hop
  · intro choice now e he
    have hfailed := ((moves_live c.scenario (.dispatch choice) now).dispatch hlive rfl).of_error he
    rcases hfailed.2 with h | ⟨id, hop, hid, hnotFound⟩
    · exact .inl h
    · cases hop
      exact .inr ⟨id, rfl, hid, hnotFound⟩

/-- The first exit of the prompts is refused, so the play is taken up again from the other start. -/
theorem live_after_refusal :
    let c := (brief (Recorder.refusingAt [(.exit .prompts, 1)]) MemoryStore.empty).after Operation.brief
    (∀ s, c.active = some (.prompts s) → s.Live .brief) ∧
    (∀ now e, (c.start now).1 = .error e → ∃ refusal, e = .presentation refusal) ∧
    (∀ target now e, (c.switchTo target now).1 = .error e → ∃ refusal, e = .presentation refusal) ∧
    ∀ choice now e, (c.dispatch choice now).1 = .error e →
      (∃ refusal, e = .presentation refusal) ∨
      ∃ id, choice = .passage id ∧ ¬ IsIdBelow 2 id ∧ e = .session (.story (.notFound id)) :=
  live_after rfl Operation.brief

end Controller

end VisualNovel
