/-
  VisualNovel.Proofs.Scene.Trace

  All that a play asks of a presentation that refuses nothing. Then every script is
  asked for as a whole. So what a choice makes the play ask for can be said ahead,
  from the active scene, the story and the ledger (`Controller.reference`), and that
  is what it asks for after any operations (`issued_append_dispatch`).
-/

import VisualNovel.Proofs.Ledger.Count
import VisualNovel.Proofs.Scene.Trail

namespace VisualNovel

open Time (Instant)

/-! ## Presentations that refuse nothing -/

namespace Presenter

variable {σ : Type} [Presenter σ] {p : σ}

/-- The presentation acknowledges every transition, whatever it was asked before. -/
def Acknowledges (p : σ) : Prop :=
  ∀ (ds : List Directive) (t : Transition), (Presenter.perform (ds.foldl ask p) t).1 = .ok ()

theorem Acknowledges.ask (h : Acknowledges p) (d : Directive) : Acknowledges (ask p d) :=
  fun ds t => h (d :: ds) t

theorem Acknowledges.foldl_ask (h : Acknowledges p) (ds : List Directive) :
    Acknowledges (ds.foldl Presenter.ask p) := by
  induction ds generalizing p with
  | nil => exact h
  | cons d ds ih => exact ih (h.ask d)

/-- To be watched changes no answer. -/
theorem Acknowledges.watched (h : Acknowledges p) (note : List Directive → Directive → List Directive)
    (notes : List Directive) : Acknowledges (⟨p, note, notes⟩ : Watched σ (List Directive)) := by
  intro ds t
  rw [Watched.foldl_ask]
  exact h ds t

end Presenter

open Presenter (Acknowledges)

theorem Recorder.acknowledges {r : Recorder} (hattempts : r.attempts = [])
    (h : ∀ t n, r.refusal t n = none) : Acknowledges r := by
  intro ds t
  rw [Recorder.answersBy_of_fresh hattempts ds t, answer, h]

/-! ## The reference -/

/-- Only the script of an ending tells how many endings are reached. -/
theorem Scenario.script_of_not_ending (sc : Scenario) {p : Passage} (h : p.isEnding = false)
    (reached total reached' total' : Nat) : sc.script reached total p = sc.script reached' total' p := by
  simp only [script, h, Bool.false_eq_true, if_false]

namespace Controller

variable {σ τ : Type}

/-- What is asked for on an arrival. Of all endings of the story that one counts as reached. -/
def arrivalScript (c : Controller σ τ) (p : Passage) : List Directive :=
  c.scenario.script (c.scenario.story.reachedWith c.ledger p.name) c.scenario.story.endingNames.card p

/-- What a choice makes a play ask for. -/
def reference (c : Controller σ τ) (choice : UserChoice) : List Directive :=
  match c.active, choice with
  | some .splash, .start v =>
    [.transition (.exit .splash), .transition (.enter .prompts)] ++
      c.arrivalScript (c.scenario.story.startPassage v)
  | some (.gameOver _), .restart =>
    [.transition (.exit .gameOver), .transition (.enter .prompts)] ++
      c.arrivalScript (c.scenario.story.startPassage .default)
  | some (.prompts _), .passage id =>
    match c.scenario.story.get? id with
    | some p => c.arrivalScript p
    | none => []
  | _, _ => []

theorem reference_of_not_accepts {c : Controller σ τ} {choice : UserChoice}
    (h : c.accepts choice = false) : c.reference choice = [] := by
  revert h
  fun_cases accepts c choice
  case case1 | case2 | case3 =>
    intro h
    cases h
  case case4 hsplash hprompts hgameOver =>
    intro _
    rw [reference]
    · exact hsplash
    · exact hgameOver
    · exact hprompts

/-- A choice that begins a session leaves the active scene for the prompts and arrives at the start. -/
theorem reference_of_begin {c : Controller σ τ} {choice : UserChoice} {v : StartVariant}
    (haccepts : c.accepts choice = true) (hcall : choice.call = .begin v) :
    c.reference choice = c.exitScript ++ [.transition (.enter .prompts)] ++
      c.arrivalScript (c.scenario.story.startPassage v) := by
  revert haccepts
  fun_cases accepts c choice
  case case1 v' hactive =>
    cases hcall
    intro _
    simp only [reference, exitScript, hactive]
    rfl
  case case2 s id hactive => cases hcall
  case case3 e hactive =>
    cases hcall
    intro _
    simp only [reference, exitScript, hactive]
    rfl
  case case4 =>
    intro h
    cases h

section Noting

variable [LedgerStore τ]

/-- The screen of an ending has the progress that includes the ending itself. -/
theorem script_noting {c : Controller σ τ} (h : c.ledger.Seeded c.scenario.story) (p : Passage)
    (now : Instant) :
    c.scenario.script (c.noting p now).ledger.reachedCount (c.noting p now).ledger.total p =
      c.arrivalScript p := by
  cases hend : p.isEnding with
  | false => exact c.scenario.script_of_not_ending hend ..
  | true =>
    obtain ⟨o, ho, hcat⟩ := Passage.isEnding_eq_true_iff.1 hend
    have hledger : (c.noting p now).ledger = c.ledger.markReached p.name (some o.tag) now := by
      rw [noting_of_ending ho hcat]
      rfl
    rw [hledger, h.reachedCount_markReached, (h.markReached p.name (some o.tag) now).total_eq]
    rfl

end Noting

/-! ## Asking for a whole script -/

section Presenting

variable [Presenter σ] {c : Controller σ τ}

theorem perform_of_acknowledges (h : Acknowledges c.presenter) (t : Transition) :
    c.perform t = (.ok (), c.asked [.transition t]) := by
  rcases c.perform_cases t with ⟨-, ht⟩ | ⟨e, he, -⟩
  · exact ht
  · cases (h [] t).symm.trans he

theorem askAll_of_acknowledges (h : Acknowledges c.presenter) (ds : List Directive) :
    c.askAll ds = (.ok (), c.asked ds) := by
  induction ds generalizing c with
  | nil => rfl
  | cons d ds ih =>
    cases d with
    | display d => exact ih (c := c.display d) (h.ask (.display d))
    | transition t =>
      rw [askAll, perform_of_acknowledges h, Reply.andThen_ok]
      exact ih (c := c.asked [.transition t]) (h.ask (.transition t))

theorem enact_of_acknowledges (h : Acknowledges c.presenter) (ds : List Directive) (scene : Scene)
    {α : Type} (answer : α) :
    c.enact ds scene answer = (.ok answer, { c.asked ds with active := some scene }) := by
  have hall : c.vacated.askAll ds = (.ok (), c.vacated.asked ds) :=
    askAll_of_acknowledges (c := c.vacated) h ds
  rw [enact, hall]
  rfl

end Presenting

section Playing

variable [Presenter σ] [LedgerStore τ] {c : Controller (Watched σ (List Directive)) τ}

/-- An arrival appends its script to what was asked for. -/
theorem notes_arrive (hnote : c.presenter.note = Watched.jot) (hp : Acknowledges c.presenter)
    (hseeded : c.ledger.Seeded c.scenario.story) (p : Passage) (now : Instant) (scene : Scene)
    {α : Type} (answer : α) :
    ((c.noting p now).enact
      (c.scenario.script (c.noting p now).ledger.reachedCount (c.noting p now).ledger.total p)
      scene answer).2.presenter.notes = c.presenter.notes ++ c.arrivalScript p := by
  obtain ⟨-, hpresenter⟩ := c.noting_eq p now
  have hacknowledges : Acknowledges (c.noting p now).presenter := by rwa [hpresenter]
  have hnoted : (c.noting p now).presenter.note = Watched.jot := by rw [hpresenter, hnote]
  rw [script_noting hseeded, enact_of_acknowledges hacknowledges]
  show ((c.noting p now).asked (c.arrivalScript p)).presenter.notes = _
  rw [notes_asked hnoted, hpresenter]

/-- **A choice appends its reference**, provided that the live session has begun. -/
theorem notes_dispatch (hnote : c.presenter.note = Watched.jot) (hp : Acknowledges c.presenter)
    (hseeded : c.ledger.Seeded c.scenario.story)
    (hbegun : ∀ s, c.active = some (.prompts s) → s.current ≠ none) (choice : UserChoice)
    (now : Instant) :
    (c.dispatch choice now).2.presenter.notes = c.presenter.notes ++ c.reference choice := by
  rcases c.dispatch_cases choice now with ⟨haccepts, hd⟩ | ⟨s, id, e, hactive, rfl, he, hd⟩ |
    ⟨v, haccepts, hcall, hscene, hd⟩ | ⟨s, id, p, c', hactive, rfl, hget, rfl, hd⟩
  · rw [hd, reference_of_not_accepts haccepts, List.append_nil]
  · -- The session has begun, so there is no passage of that number.
    have hnone := Session.get?_eq_none_of_choose (hbegun s hactive) he
    have hreference : c.reference (.passage id) = [] := by
      simp only [reference, hactive, hnone]
    rw [hd, hreference, List.append_nil]
  · have hall := askAll_of_acknowledges (c := c.vacated) hp
      (c.exitScript ++ [.transition (.enter .prompts)])
    have harrive := notes_arrive
      (c := c.vacated.asked (c.exitScript ++ [.transition (.enter .prompts)]))
      ((note_asked ..).trans hnote) (hp.foldl_ask _) hseeded (c.scenario.story.startPassage v) now
      (Session.fresh.sceneAt c.scenario (c.scenario.story.startPassage v)) ()
    rw [hd, Reply.snd_andThen, switchTo_prompts_arrive hscene, hall, Reply.andThen_ok,
      reference_of_begin haccepts hcall, ← List.append_assoc, ← notes_asked hnote]
    exact harrive
  · have hreference : c.reference (.passage id) = c.arrivalScript p := by
      simp only [reference, hactive, hget]
    rw [hd, hreference]
    exact notes_arrive hnote hp hseeded p now ..

end Playing

/-! ## Runs -/

section Runs

variable [Presenter σ] [LedgerStore τ]

/-- A play that was hydrated for its story has taken it in, and keeps it. -/
theorem seeded_after {sc : Scenario} {presenter : σ} {store : τ} {c : Controller σ τ}
    (h : hydrate sc presenter store = .ok c) (ops : List (Operation × Instant)) :
    (c.after ops).ledger.Seeded sc.story := by
  obtain ⟨hsc, -, -, -, hledger⟩ := eq_of_hydrate h
  apply after_of_records (P := fun l _ => l.Seeded sc.story) _ hsc (Ledger.seeded_of_hydrate hledger) ops
  exact fun l _ p o now hl _ _ => hl.markReached p.name (some o.tag) now

/--
**The trace of a play.** A play is hydrated for its scenario, with a presentation that refuses nothing.
After any operations, a choice makes it ask for its reference, and for nothing else.
-/
theorem issued_append_dispatch {sc : Scenario} {presenter : σ} {store : τ} {c : Controller σ τ}
    (h : hydrate sc presenter store = .ok c) (hp : Acknowledges presenter)
    (ops : List (Operation × Instant)) (choice : UserChoice) (now : Instant) :
    c.issued (ops ++ [(.dispatch choice, now)]) = c.issued ops ++ (c.after ops).reference choice := by
  obtain ⟨hsc, hpresenter, -, hactive, -⟩ := eq_of_hydrate h
  have hunwatched := (after_watched c Watched.jot [] ops).2
  have hseeded := seeded_after h ops
  have hmirrors := mirrors_after hactive ops
  have hwatched : Acknowledges (c.watched Watched.jot []).presenter :=
    Acknowledges.watched (hpresenter ▸ hp) Watched.jot []
  have hacknowledges := (after_of_presentations (P := Acknowledges) (fun _ d hq => hq.ask d) hwatched ops).2
  rw [issued, issued, after_append, after_cons, after_nil, operate_dispatch, ← hunwatched]
  rw [← hunwatched] at hseeded
  apply notes_dispatch hmirrors.note hacknowledges _ hmirrors.begun
  rw [hmirrors.scenario, hsc]
  exact hseeded

/-- The brief story with a picture and an animation of its first passage, and a picture for good endings. -/
def illustrated : Controller Recorder MemoryStore :=
  let assets : AssetManifest := {
    backgrounds := .ofList [("Crossroads", "images/crossroads.png"), ("Good-End", "images/sunset.png")]
    animations := .ofList [("Crossroads", ⟨"owl", true⟩)] }
  { brief (Recorder.refusingAt []) MemoryStore.empty with scenario := { Scenario.brief with assets } }

/--
What is asked for when the reader starts, and then when the reader chooses the way home, which is the
one ending of the story. There is a picture by the name of the first passage and one by the outcome of
the other.
-/
theorem issued_append_dispatch_home :
    illustrated.issued (Operation.brief.take 1 ++ [(.dispatch (.start .default), .newYear)]) =
      illustrated.issued (Operation.brief.take 1) ++
        [.transition (.exit .splash), .transition (.enter .prompts), .display (.background "Crossroads"),
          .display (.animation "owl"), .display (.secondaryEffect true), .display (.prompt "Which way?"),
          .display (.choices [⟨"Home", 2⟩])] ∧
    illustrated.issued (Operation.brief.take 2 ++ [(.dispatch (.passage 2), .newYear)]) =
      illustrated.issued (Operation.brief.take 2) ++
        [.display .stopAnimation, .display (.secondaryEffect false), .display (.choices []),
          .transition (.exit .prompts), .display (.background "Good-End"),
          .display (.endingText "Safe and sound."), .display (.endingsProgress 1 1),
          .display (.choices []), .transition (.enter .gameOver)] := by
  have hp : Acknowledges (Recorder.refusingAt []) := Recorder.acknowledges rfl fun _ _ => rfl
  have hc : hydrate illustrated.scenario (Recorder.refusingAt []) MemoryStore.empty = .ok illustrated := rfl
  constructor
  · rw [issued_append_dispatch hc hp, List.append_cancel_left_eq]
    decide +kernel
  · rw [issued_append_dispatch hc hp, List.append_cancel_left_eq]
    decide +kernel

end Runs

end Controller

end VisualNovel
