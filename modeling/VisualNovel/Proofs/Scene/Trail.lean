/-
  VisualNovel.Proofs.Scene.Trail

  What is on screen during a play, after any operations and any refusals. The
  trail of a play has the passages that the live session has traversed, latest
  first; it is kept from the operations alone. `Mirrors` says what the log of the
  presentation has to do with it: outside the prompts nothing is left on screen,
  and in the prompts the choices on screen are the links of the latest passage of
  the trail that was shown. One lemma for an arrival, one for each operation, and
  then the run.
-/

import VisualNovel.Proofs.Scene.Script
import VisualNovel.Proofs.Stage.Controls

namespace VisualNovel

open Directive (StopsIn latest)
open Time (Instant)

/-! ## Trails -/

namespace Controller

variable {σ τ : Type}

/-- What an operation asks of the session. -/
def call? (c : Controller σ τ) : Operation → Option Session.Call
  | .dispatch choice => if c.accepts choice then some choice.call else none
  | .switchTo (.prompts v) => if c.activeScene = some .prompts then none else some (.begin v)
  | _ => none

theorem call?_dispatch {c : Controller σ τ} {choice : UserChoice} (h : c.accepts choice = true) :
    c.call? (.dispatch choice) = some choice.call :=
  if_pos h

theorem call?_dispatch_passage {c : Controller σ τ} {s : Session} (h : c.active = some (.prompts s))
    (id : PassageId) : c.call? (.dispatch (.passage id)) = some (.choose id) := by
  have haccepts : c.accepts (.passage id) = true := by simp only [accepts, h]
  exact call?_dispatch haccepts

theorem call?_switchTo_prompts {c : Controller σ τ} {v : StartVariant}
    (h : c.activeScene ≠ some (SceneTarget.prompts v).id) :
    c.call? (.switchTo (.prompts v)) = some (.begin v) :=
  if_neg h

/-- A trail with what a call adds to it; a begin starts a new one. -/
def extend (story : Story) (trail : List Passage) : Option Session.Call → List Passage
  | none => trail
  | some (.begin v) => [story.startPassage v]
  | some (.choose id) => (story.get? id).toList ++ trail

section Playing

variable [Presenter σ] [LedgerStore τ]

/-- The trail after an operation. Without a live session there is none. -/
def trailAfter (c : Controller σ τ) (trail : List Passage) (op : Operation) (now : Instant) : List Passage :=
  if (c.operate op now).2.session = none then [] else extend c.scenario.story trail (c.call? op)

/-- The trail after some operations. -/
def trailFrom (c : Controller σ τ) (trail : List Passage) : List (Operation × Instant) → List Passage
  | [] => trail
  | op :: ops => (c.operate op.1 op.2).2.trailFrom (c.trailAfter trail op.1 op.2) ops

/-- The passages that the live session has traversed, latest first, in a play that began without one. -/
def trail (c : Controller σ τ) (ops : List (Operation × Instant)) : List Passage :=
  c.trailFrom [] ops

/-- To be watched changes nothing of the trail. -/
theorem trailFrom_watched {c : Controller (Watched σ (List Directive)) τ} (trail : List Passage)
    (ops : List (Operation × Instant)) : c.trailFrom trail ops = c.unwatched.trailFrom trail ops := by
  induction ops generalizing c trail with
  | nil => rfl
  | cons op ops ih =>
    have hlockstep : Lockstep c.scenario op.2 op.2 (Watches (σ := σ) c.presenter.note fun _ => True)
        (SameRecords (τ := τ)) :=
      lockstep_watched c.scenario op.2 fun _ _ h => h
    have hafter := (hlockstep.operate (alike_unwatched rfl trivial) op.1).2.unwatched_eq
    rw [trailFrom, trailFrom, trailAfter, trailAfter, ih, ← hafter]
    rfl

end Playing

end Controller

/-! ## What is on screen -/

/-- The choices on screen are the links of the latest passage shown; if none was shown there are none. -/
structure OffersLinks (trail : List Passage) (log : List Directive) : Prop where
  shown : ∀ p, trail.find? Passage.isShown = some p →
    latest Display.choices? log = some (p.links.map Link.choice)
  notShown : trail.find? Passage.isShown = none → ∀ items, latest Display.choices? log = some items → items = []

/-- A session with the trail that led to it, through passages of the story. -/
structure Session.Trailed (story : Story) (s : Session) (trail : List Passage) : Prop where
  sums : s.Sums trail
  passages : ∀ p ∈ trail, ∃ id, story.get? id = some p

theorem Cleared.offersLinks {log : List Directive} (h : Cleared log) : OffersLinks [] log where
  shown p hp := by cases hp
  notShown _ := h.choices

namespace OffersLinks

variable {trail : List Passage} {log : List Directive} {p : Passage}

/-- A transition leaves the choices. -/
theorem append_transition (h : OffersLinks trail log) (t : Transition) :
    OffersLinks trail (log ++ [.transition t]) where
  shown p hp := by
    rw [Directive.latest_append]
    exact h.shown p hp
  notShown hnone items hitems := by
    rw [Directive.latest_append] at hitems
    exact h.notShown hnone items hitems

/-- An arrival shows the links of the passage, or nothing if it is a menu. -/
theorem arrive (h : OffersLinks trail log) (hend : p.isEnding = false) (sc : Scenario)
    (reached total : Nat) : OffersLinks (p :: trail) (log ++ sc.script reached total p) := by
  cases hshown : p.isShown with
  | true =>
    have hfind : (p :: trail).find? Passage.isShown = some p := List.find?_cons_of_pos hshown
    rw [Scenario.script_of_isShown hshown]
    constructor
    · intro q hq
      rw [hfind] at hq
      cases hq
      rw [Directive.latest_append]
      rfl
    · intro hnone
      rw [hfind] at hnone
      cases hnone
  | false =>
    have hfind : (p :: trail).find? Passage.isShown = trail.find? Passage.isShown :=
      List.find?_cons_of_neg (by simp [hshown])
    rw [Scenario.script_of_menu hend hshown, List.append_nil]
    exact ⟨hfind ▸ h.shown, hfind ▸ h.notShown⟩

/-- What is offered is a link of a passage of the trail. -/
theorem exists_link (h : OffersLinks trail log) {items : List ChoiceItem} {item : ChoiceItem}
    (hitems : latest Display.choices? log = some items) (hitem : item ∈ items) :
    ∃ p ∈ trail, ∃ l ∈ p.links, l.choice = item := by
  cases hfind : trail.find? Passage.isShown with
  | none =>
    rw [h.notShown hfind items hitems] at hitem
    cases hitem
  | some p =>
    have hlinks := (h.shown p hfind).symm.trans hitems
    cases hlinks
    exact ⟨p, List.mem_of_find?_eq_some hfind, List.mem_map.1 hitem⟩

end OffersLinks

/-! ## Scripts on screen -/

theorem Scene.isQuiet_of_mem_exitScript {scene : Scene} (h : ∀ s, scene ≠ .prompts s) {d : Directive}
    (hd : d ∈ scene.exitScript) : d.isQuiet = true := by
  cases scene with
  | prompts s => exact absurd rfl (h s)
  | splash => rw [List.mem_singleton.1 hd]; rfl
  | gameOver e => rw [List.mem_singleton.1 hd]; rfl

/-- Once the prompts said farewell, nothing brings a control back before they are entered again. -/
theorem Cleared.of_farewell {log part rest : List Directive} (hrest : ∀ d ∈ rest, d.isQuiet = true)
    (h : part = [.display .stopAnimation, .display (.secondaryEffect false), .display (.choices [])] ++ rest ∨
      StopsIn part
        ([.display .stopAnimation, .display (.secondaryEffect false), .display (.choices [])] ++ rest)) :
    Cleared (log ++ part) := by
  rcases h with rfl | h
  · rw [← List.append_assoc]
    exact (Cleared.farewell log).append hrest
  · have hfarewell : StopsIn part
        ([Display.stopAnimation, .secondaryEffect false, .choices []].map .display ++ rest) := h
    obtain ⟨rest', rfl, hstops⟩ := hfarewell.exists_of_displays
    rw [← List.append_assoc]
    exact (Cleared.farewell log).append fun d hd => hrest d (hstops.mem hd)

namespace Controller

variable {σ τ : Type}

/-- The log of a play with a trail shows what the play is at. -/
structure Mirrors (sc : Scenario) (trail : List Passage) (c : Controller (Watched σ (List Directive)) τ) :
    Prop where
  scenario : c.scenario = sc
  note : c.presenter.note = Watched.jot
  cleared : (∀ s, c.active ≠ some (.prompts s)) → Cleared c.presenter.notes
  offers : ∀ s, c.active = some (.prompts s) → OffersLinks trail c.presenter.notes
  trailed : ∀ s, c.active = some (.prompts s) → s.Trailed sc.story trail
  begun : ∀ s, c.active = some (.prompts s) → s.current ≠ none

variable {sc : Scenario} {trail : List Passage} {c : Controller (Watched σ (List Directive)) τ}

/-- Outside the prompts the trail does not matter. -/
theorem Mirrors.of_cleared (hsc : c.scenario = sc) (hnote : c.presenter.note = Watched.jot)
    (hactive : ∀ s, c.active ≠ some (.prompts s)) (h : Cleared c.presenter.notes)
    (trail : List Passage) : c.Mirrors sc trail :=
  ⟨hsc, hnote, fun _ => h, fun s hs => absurd hs (hactive s), fun s hs => absurd hs (hactive s),
    fun s hs => absurd hs (hactive s)⟩

/-- Whatever was on screen is cleared by leaving the active scene, and stays so while a quiet script goes on. -/
theorem Mirrors.cleared_of_exit (h : c.Mirrors sc trail) {part rest : List Directive}
    (hrest : ∀ d ∈ rest, d.isQuiet = true)
    (hpart : part = c.exitScript ++ rest ∨ StopsIn part (c.exitScript ++ rest)) :
    Cleared (c.presenter.notes ++ part) := by
  by_cases hprompts : ∃ s, c.active = some (.prompts s)
  · obtain ⟨s, hs⟩ := hprompts
    have hexit : c.exitScript ++ rest = [.display .stopAnimation, .display (.secondaryEffect false),
        .display (.choices [])] ++ (.transition (.exit .prompts) :: rest) := by
      rw [exitScript, hs]
      rfl
    rw [hexit] at hpart
    apply Cleared.of_farewell _ hpart
    intro d hd
    rcases List.mem_cons.1 hd with rfl | hd
    · rfl
    · exact hrest d hd
  · have hactive := not_exists.1 hprompts
    have hquiet : ∀ d ∈ c.exitScript ++ rest, d.isQuiet = true := by
      intro d hd
      rcases List.mem_append.1 hd with hd | hd
      · cases hscene : c.active with
        | none =>
          rw [exitScript, hscene] at hd
          cases hd
        | some scene =>
          rw [exitScript, hscene] at hd
          exact Scene.isQuiet_of_mem_exitScript (fun s hs => hactive s (hs ▸ hscene)) hd
      · exact hrest d hd
    apply (h.cleared hactive).append
    intro d hd
    rcases hpart with rfl | hpart
    · exact hquiet d hd
    · exact hquiet d (hpart.mem hd)

section Presenting

variable [Presenter σ]

/-- A script that clears the screen, as far as it is asked for, leads out of the prompts. -/
theorem mirrors_enact (hsc : c.scenario = sc) (hnote : c.presenter.note = Watched.jot) {scene : Scene}
    (hscene : ∀ s, scene ≠ .prompts s) {ds : List Directive}
    (hcleared : ∀ part, part = ds ∨ StopsIn part ds → Cleared (c.presenter.notes ++ part)) {α : Type}
    (answer : α) (trail : List Passage) : (c.enact ds scene answer).2.Mirrors sc trail := by
  have hnotes : ∀ part, part = ds ∨ StopsIn part ds → Cleared (c.asked part).presenter.notes := by
    intro part hpart
    rw [notes_asked hnote]
    exact hcleared part hpart
  rcases c.enact_cases ds scene answer with hall | ⟨part, e, hpart, hrefused⟩
  · rw [hall]
    apply Mirrors.of_cleared
    · exact hsc
    · exact (note_asked c ds).trans hnote
    · exact fun s hs => hscene s (Option.some.inj hs)
    · exact hnotes ds (.inl rfl)
  · rw [hrefused]
    apply Mirrors.of_cleared
    · exact hsc
    · exact (note_asked c part).trans hnote
    · intro s hs
      cases hs
    · exact hnotes part (.inr hpart)

/-- Getting ready leaves the screen as it is. -/
theorem Mirrors.prepare (h : c.Mirrors sc trail) (t : Transition) :
    (c.asked [.transition t]).Mirrors sc trail where
  scenario := h.scenario
  note := (note_asked ..).trans h.note
  cleared hactive := by
    rw [notes_asked h.note]
    exact (h.cleared hactive).append (by simp [Directive.isQuiet])
  offers s hs := by
    rw [notes_asked h.note]
    exact (h.offers s hs).append_transition t
  trailed := h.trailed
  begun := h.begun

variable [LedgerStore τ]

/-- **An arrival.** The passage is the latest of the trail; an ending leaves the prompts behind. -/
theorem mirrors_arrive {s : Session} {id : PassageId} {p : Passage} (hsc : c.scenario = sc)
    (hnote : c.presenter.note = Watched.jot) (hoffers : OffersLinks trail c.presenter.notes)
    (hs : s.Trailed sc.story trail) (hp : sc.story.get? id = some p) (now : Instant)
    (reached total : Nat) {α : Type} (answer : α) :
    ((c.noting p now).enact (sc.script reached total p) (s.sceneAt sc p) answer).2.Mirrors sc
      (p :: trail) := by
  obtain ⟨hscenario, hpresenter⟩ := c.noting_eq p now
  have hnoted : (c.noting p now).presenter.note = Watched.jot := by rw [hpresenter, hnote]
  cases hend : p.isEnding with
  | true =>
    obtain ⟨o, ho, hcat⟩ := Passage.isEnding_eq_true_iff.1 hend
    rw [Session.sceneAt, Scenario.stepOf_of_ending ho hcat]
    refine mirrors_enact (hscenario.trans hsc) hnoted (by simp) ?_ answer _
    intro part hpart
    rw [hpresenter]
    rw [Scenario.script, if_pos hend] at hpart
    exact Cleared.of_farewell (by simp [Directive.isQuiet]) hpart
  | false =>
    have hscene : s.sceneAt sc p = .prompts ⟨some p.id, s.tallyAt p⟩ := by
      rw [Session.sceneAt]
      split
      · next e he => exact absurd he (Scenario.stepOf_ne_ending hend e)
      · rfl
    have hsums : Session.Sums ⟨some p.id, s.tallyAt p⟩ (p :: trail) := by
      have := hs.sums.arrive sc c.ledger p now
      rwa [Session.arrive_of_not_ending hend] at this
    -- Nothing of the script can be refused, since it is only shown.
    obtain ⟨ds, hds⟩ : ∃ ds, sc.script reached total p = List.map .display ds := by
      cases hshown : p.isShown with
      | true => exact ⟨_, Scenario.script_of_isShown hshown reached total⟩
      | false => exact ⟨[], Scenario.script_of_menu hend hshown reached total⟩
    rcases (c.noting p now).enact_cases (sc.script reached total p) (s.sceneAt sc p) answer with
      hall | ⟨part, e, hpart, -⟩
    · rw [hall, hscene]
      refine ⟨hscenario.trans hsc, (note_asked ..).trans hnoted, fun hactive => absurd rfl (hactive _),
        ?_, ?_, ?_⟩
      · intro s' _
        show OffersLinks _ ((c.noting p now).asked _).presenter.notes
        rw [notes_asked hnoted, hpresenter]
        exact hoffers.arrive hend sc reached total
      · rintro s' hs'
        cases hs'
        exact ⟨hsums, List.forall_mem_cons.2 ⟨⟨id, hp⟩, hs.passages⟩⟩
      · rintro s' hs'
        cases hs'
        exact Option.some_ne_none _
    · rw [hds] at hpart
      exact absurd hpart StopsIn.not_displays

/-! ## Operations -/

theorem Mirrors.switchTo_prompts (h : c.Mirrors sc trail) {v : StartVariant}
    (hscene : c.activeScene ≠ some (SceneTarget.prompts v).id) (now : Instant) :
    (c.switchTo (.prompts v) now).2.Mirrors sc [sc.story.startPassage v] := by
  have hcleared : ∀ part, part = c.exitScript ++ [.transition (.enter .prompts)] ∨
      StopsIn part (c.exitScript ++ [.transition (.enter .prompts)]) →
      Cleared (c.presenter.notes ++ part) := fun part hpart =>
    h.cleared_of_exit (by simp [Directive.isQuiet]) hpart
  rcases switchTo_prompts_cases hscene now with ⟨part, e, hpart, hrefused⟩ | ⟨c', rfl, hentered⟩
  · rw [hrefused]
    apply Mirrors.of_cleared
    · exact h.scenario
    · exact (note_asked c part).trans h.note
    · intro s hs
      cases hs
    · show Cleared (c.asked part).presenter.notes
      rw [notes_asked h.note]
      exact hcleared part (.inr hpart)
  · rw [hentered, h.scenario]
    apply mirrors_arrive (c := c.asked _)
    · exact h.scenario
    · exact (note_asked ..).trans h.note
    · rw [notes_asked h.note]
      exact (hcleared _ (.inl rfl)).offersLinks
    · exact ⟨Session.sums_fresh, List.forall_mem_nil _⟩
    · exact sc.story.get?_startOf v

theorem Mirrors.switchTo (h : c.Mirrors sc trail) (target : SceneTarget) (now : Instant) :
    (c.switchTo target now).2.Mirrors sc (extend sc.story trail (c.call? (.switchTo target))) := by
  by_cases hscene : c.activeScene = some target.id
  · -- Nothing happens, and the session is asked for nothing.
    have hcall : c.call? (.switchTo target) = none := by
      cases target with
      | prompts v => exact if_pos hscene
      | splash => rfl
      | gameOver e => rfl
    rw [hcall, Controller.switchTo, if_pos hscene]
    exact h
  · cases target with
    | splash =>
      rw [switchTo_splash hscene]
      apply mirrors_enact h.scenario h.note (by simp)
      exact fun part => h.cleared_of_exit (by simp [Directive.isQuiet])
    | gameOver e =>
      rw [switchTo_gameOver hscene]
      apply mirrors_enact h.scenario h.note (by simp)
      exact fun part => h.cleared_of_exit (by simp [Directive.isQuiet, endingDisplays])
    | prompts v =>
      rw [call?_switchTo_prompts hscene]
      exact h.switchTo_prompts hscene now

theorem Mirrors.start (h : c.Mirrors sc trail) (now : Instant) : (c.start now).2.Mirrors sc trail := by
  rw [Controller.start]
  rcases c.perform_cases .prepare with ⟨-, ht⟩ | ⟨e, -, ht⟩
  · rw [ht]
    exact (h.prepare .prepare).switchTo .splash now
  · rw [ht]
    exact h.prepare .prepare

theorem Mirrors.dispatch (h : c.Mirrors sc trail) (choice : UserChoice) (now : Instant) :
    (c.dispatch choice now).2.Mirrors sc (extend sc.story trail (c.call? (.dispatch choice))) := by
  rcases c.dispatch_cases choice now with ⟨haccepts, hd⟩ | ⟨s, id, e, hactive, rfl, he, hd⟩ |
    ⟨v, haccepts, hcall, hscene, hd⟩ | ⟨s, id, p, c', hactive, rfl, hp, rfl, hd⟩
  · rw [hd, call?, haccepts]
    exact h
  · -- The session has begun, so no passage has the number that it was asked for.
    have hnone : sc.story.get? id = none := by
      rw [← h.scenario]
      exact Session.get?_eq_none_of_choose (h.begun s hactive) he
    rw [hd, call?_dispatch_passage hactive, extend, hnone]
    exact h
  · rw [hd, call?_dispatch haccepts, hcall, Reply.snd_andThen]
    exact h.switchTo_prompts hscene now
  · rw [h.scenario] at hp
    rw [hd, call?_dispatch_passage hactive, extend, hp, h.scenario]
    exact mirrors_arrive h.scenario h.note (h.offers s hactive) (h.trailed s hactive) hp now ..

/-- **One operation.** The screen shows what the play has come to, whatever was refused. -/
theorem Mirrors.operate (h : c.Mirrors sc trail) (op : Operation) (now : Instant) :
    (c.operate op now).2.Mirrors sc (c.trailAfter trail op now) := by
  have hextended : (c.operate op now).2.Mirrors sc (extend sc.story trail (c.call? op)) := by
    cases op with
    | start =>
      rw [Controller.operate, Reply.snd_andThen]
      exact h.start now
    | dispatch choice =>
      rw [operate_dispatch]
      exact h.dispatch choice now
    | switchTo target =>
      rw [Controller.operate, Reply.snd_andThen]
      exact h.switchTo target now
  rw [trailAfter, h.scenario]
  split
  · next hsession =>
    -- Without a session the prompts are not active.
    have hactive : ∀ s, (c.operate op now).2.active ≠ some (.prompts s) := by
      intro s hs
      rw [session, hs] at hsession
      cases hsession
    exact .of_cleared hextended.scenario hextended.note hactive (hextended.cleared hactive) []
  · exact hextended

theorem Mirrors.after (h : c.Mirrors sc trail) (ops : List (Operation × Instant)) :
    (c.after ops).Mirrors sc (c.trailFrom trail ops) := by
  induction ops generalizing c trail with
  | nil => exact h
  | cons op ops ih => exact ih (h.operate op.1 op.2)

end Presenting

/-! ## Runs -/

section Runs

variable [Presenter σ] [LedgerStore τ]

/-- A play that begins without a scene is mirrored by all that is noted of it. -/
theorem mirrors_after {c : Controller σ τ} (hactive : c.active = none) (ops : List (Operation × Instant)) :
    ((c.watched Watched.jot []).after ops).Mirrors c.scenario (c.trail ops) := by
  have hbegin : (c.watched Watched.jot []).Mirrors c.scenario [] := by
    apply Mirrors.of_cleared
    · rfl
    · rfl
    · intro s hs
      cases hactive.symm.trans hs
    · exact .nil
  have hafter := hbegin.after ops
  rwa [trailFrom_watched] at hafter

/--
**No stale controls.** Look at all that a play has asked of its presentation after any operations,
whatever they answered and whatever was refused. If the prompts are not active, nothing is left on
screen of what was offered before. If they are, the live session has traversed the passages of the
trail, and the choices on screen are the links of the latest of them that was shown, or none if none
was shown. A choice on screen is never the number of no passage.
-/
theorem controls_after {c : Controller σ τ} (hactive : c.active = none)
    (ops : List (Operation × Instant)) :
    ((∀ s, (c.after ops).active ≠ some (.prompts s)) → Cleared (c.issued ops)) ∧
    (∀ s, (c.after ops).active = some (.prompts s) →
      s.Trailed c.scenario.story (c.trail ops) ∧ OffersLinks (c.trail ops) (c.issued ops)) ∧
    ∀ items, latest Display.choices? (c.issued ops) = some items → ∀ item ∈ items, ∀ now id,
      ((c.after ops).dispatch (.passage item.targetId) now).1 ≠
        .error (.session (.story (.notFound id))) := by
  have hmirrors := mirrors_after hactive ops
  -- The play by itself stands where the watched one does.
  have hunwatched := (after_watched c Watched.jot [] ops).2
  have hafter : (c.after ops).active = ((c.watched Watched.jot []).after ops).active := by
    rw [← hunwatched]
    rfl
  have hscenario : (c.after ops).scenario = c.scenario := by
    rw [← hunwatched]
    exact hmirrors.scenario
  rw [hafter]
  refine ⟨hmirrors.cleared, fun s hs => ⟨hmirrors.trailed s hs, hmirrors.offers s hs⟩, ?_⟩
  intro items hitems item hitem now id hnotFound
  rcases (c.after ops).dispatch_cases (.passage item.targetId) now with
    ⟨-, hd⟩ | ⟨s, target, e, hs, htarget, he, hd⟩ | ⟨v, -, hcall, -⟩ | ⟨s, target, p, c', -, -, -, -, hd⟩
  · rw [hd] at hnotFound
    cases hnotFound
  · cases htarget
    rw [hafter] at hs
    obtain ⟨p, hp, l, hl, rfl⟩ := (hmirrors.offers s hs).exists_link hitems hitem
    obtain ⟨number, hnumber⟩ := (hmirrors.trailed s hs).passages p hp
    obtain ⟨q, hq⟩ := Story.exists_get?_of_link hnumber hl
    rw [hscenario] at he
    cases (Session.get?_eq_none_of_choose (hmirrors.begun s hs) he).symm.trans hq
  · cases hcall
  · rw [hd] at hnotFound
    rcases c'.enact_cases _ _ _ with hall | ⟨part, e, -, hrefused⟩
    · rw [hall] at hnotFound
      cases hnotFound
    · rw [hrefused] at hnotFound
      cases hnotFound

/-- At the crossroads the one way is on screen; after a refused exit nothing is left of it. -/
theorem controls_after_crossroads :
    let c := brief (Recorder.refusingAt [(.exit .prompts, 1)]) MemoryStore.empty
    latest Display.choices? (c.issued (Operation.brief.take 2)) = some [⟨"Home", 2⟩] ∧
      (c.after (Operation.brief.take 3)).active = none ∧ Cleared (c.issued (Operation.brief.take 3)) := by
  intro c
  have hprompts : (c.after (Operation.brief.take 2)).active = some (.prompts ⟨some 1, .empty⟩) := by
    decide +kernel
  have hnone : (c.after (Operation.brief.take 3)).active = none := by decide +kernel
  have hoffers := ((controls_after (c := c) rfl (Operation.brief.take 2)).2.1 _ hprompts).2
  refine ⟨hoffers.shown Story.brief.passages[0] (by decide +kernel), hnone, ?_⟩
  exact (controls_after (c := c) rfl (Operation.brief.take 3)).1 (by rw [hnone]; nofun)

end Runs

end Controller

end VisualNovel
