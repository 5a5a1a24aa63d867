/-
  VisualNovel.Proofs.Scene.Script

  What an operation does, said once and in full. It asks the presentation for some
  directives in order, and the first refusal ends it (`askAll_cases`). Which
  directives these are is its script: the active scene's farewell, the entry of the
  next scene, and what is shown of the passage that a session arrives at
  (`Scenario.script`). With its script an operation is one equation, whatever the
  presentation answers: `switchTo_splash`, `switchTo_gameOver` and
  `switchTo_prompts` for the scenes, `present_arrive` for an arrival.
-/

import VisualNovel.Proofs.Scene.Independence
import VisualNovel.Proofs.Scene.Reading

namespace VisualNovel

open Time (Instant)

/-! ## Scripts -/

/-- What is asked for when a scene is left. -/
def Scene.exitScript (scene : Scene) : List Directive :=
  scene.farewell.map .display ++ [.transition (.exit scene.id)]

/-- What was asked for of a script when a transition of it was refused. -/
def Directive.StopsIn (part script : List Directive) : Prop :=
  ∃ before t later, script = before ++ .transition t :: later ∧ part = before ++ [.transition t]

namespace Directive.StopsIn

variable {part script : List Directive} {ds : List Display} {d : Directive}

theorem head (t : Transition) (script : List Directive) :
    StopsIn [.transition t] (.transition t :: script) :=
  ⟨[], t, script, rfl, rfl⟩

theorem cons (h : StopsIn part script) (d : Directive) : StopsIn (d :: part) (d :: script) := by
  obtain ⟨before, t, later, rfl, rfl⟩ := h
  exact ⟨d :: before, t, later, rfl, rfl⟩

theorem mem (h : StopsIn part script) (hd : d ∈ part) : d ∈ script := by
  obtain ⟨before, t, later, rfl, rfl⟩ := h
  rcases List.mem_append.1 hd with hd | hd
  · exact List.mem_append_left _ hd
  · rw [List.mem_singleton.1 hd]
    exact List.mem_append_right _ List.mem_cons_self

/-- What was asked for up to a refusal is how the script begins. -/
theorem isPrefix (h : StopsIn part script) : part <+: script := by
  obtain ⟨before, t, later, rfl, rfl⟩ := h
  exact ⟨later, List.append_assoc ..⟩

/-- What is only shown is asked for in any case. -/
theorem exists_of_displays (h : StopsIn part (ds.map .display ++ script)) :
    ∃ rest, part = ds.map .display ++ rest ∧ StopsIn rest script := by
  obtain ⟨before, t, later, hscript, rfl⟩ := h
  induction ds generalizing before with
  | nil => exact ⟨_, rfl, before, t, later, hscript, rfl⟩
  | cons d ds ih =>
    cases before with
    | nil => cases (List.cons.inj hscript).1
    | cons d' before =>
      obtain ⟨rfl, htail⟩ := List.cons.inj hscript
      obtain ⟨rest, hrest, hstops⟩ := ih before htail
      exact ⟨rest, congrArg (_ :: ·) hrest, hstops⟩

theorem not_displays : ¬ StopsIn part (ds.map .display) := by
  rintro ⟨before, t, later, hscript, -⟩
  have ht : Directive.transition t ∈ ds.map .display := by
    rw [hscript]
    exact List.mem_append_right _ List.mem_cons_self
  obtain ⟨d, -, hd⟩ := List.mem_map.1 ht
  cases hd

end Directive.StopsIn

open Directive (StopsIn)

namespace Scenario

/-- The background of a passage: its name if the manifest has it, or else its outcome, or else the default. -/
def backdrop (sc : Scenario) (p : Passage) : String :=
  if sc.assets.backgrounds.contains p.name then p.name
  else
    match p.outcome with
    | some o => if sc.assets.backgrounds.contains o.tag then o.tag else sc.config.defaultBackground
    | none => sc.config.defaultBackground

/--
What a session in the prompts asks for when it arrives at a passage. An ending tells how many of how
many endings are reached. Nothing is asked for at a menu.
-/
def script (sc : Scenario) (reached total : Nat) (p : Passage) : List Directive :=
  if p.isEnding then
    [.display .stopAnimation, .display (.secondaryEffect false), .display (.choices []),
      .transition (.exit .prompts), .display (.background (sc.backdrop p)),
      .display (.endingText (p.prompt sc.config.linkDelimiter)),
      .display (.endingsProgress reached total), .display (.choices []), .transition (.enter .gameOver)]
  else if p.isShown then
    let cue := (sc.assets.animations.get? p.name).getD ⟨sc.config.defaultAnimation, false⟩
    [.display (.background (sc.backdrop p)), .display (.animation cue.animation),
      .display (.secondaryEffect cue.secondaryEffect),
      .display (.prompt (p.prompt sc.config.linkDelimiter)), .display (.choices (p.links.map Link.choice))]
  else []

/-- A frame and the screen of an ending find the same background, each in its own way. -/
theorem background_frame (sc : Scenario) (p : Passage) : (sc.frame p).background = sc.backdrop p := by
  simp only [frame, AssetManifest.background, AssetManifest.hasBackground, backdrop, List.find?_cons]
  cases sc.assets.backgrounds.contains p.name with
  | true => rfl
  | false =>
    cases p.outcome with
    | none => rfl
    | some o =>
      simp only [Option.map_some, Option.toList_some, List.find?_cons, AssetManifest.hasBackground,
        Bool.false_eq_true, if_false]
      cases sc.assets.backgrounds.contains o.tag with
      | true => rfl
      | false => rfl

theorem endingBackground_ending {sc : Scenario} {p : Passage} {o : Outcome} (h : p.outcome = some o) :
    sc.endingBackground (sc.ending p o) = sc.backdrop p := by
  rw [← background_frame, frame, h]
  rfl

theorem script_of_isShown {sc : Scenario} {p : Passage} (h : p.isShown = true) (reached total : Nat) :
    sc.script reached total p = (sc.frame p).displays.map .display := by
  have hend : ¬ p.isEnding = true := by simp [Passage.isEnding_eq_false_of_isShown h]
  rw [script, if_neg hend, if_pos h, Frame.displays, background_frame]
  rfl

theorem script_of_menu {sc : Scenario} {p : Passage} (hend : p.isEnding = false) (h : p.isShown = false)
    (reached total : Nat) : sc.script reached total p = [] := by
  rw [script, if_neg (by simp [hend]), if_neg (by simp [h])]

end Scenario

/-- The scene after an arrival: the screen of the ending, or the prompts with the session there. -/
def Session.sceneAt (s : Session) (sc : Scenario) (p : Passage) : Scene :=
  match sc.stepOf p with
  | .ending e => .gameOver e
  | _ => .prompts ⟨some p.id, s.tallyAt p⟩

/-- Once a session has begun, it refuses nothing but numbers of no passage. -/
theorem Session.get?_eq_none_of_choose {s : Session} {sc : Scenario} {l : Ledger} {id : PassageId}
    {now : Instant} {e : SessionError} (hcurrent : s.current ≠ none) (h : s.choose sc l id now = .error e) :
    sc.story.get? id = none := by
  rcases s.choose_cases sc l id now with ⟨hnone, -⟩ | ⟨-, hid, -⟩ | ⟨-, p, -, harrive⟩
  · exact absurd hnone hcurrent
  · exact Story.get?_eq_none_iff.2 hid
  · cases harrive.symm.trans h

theorem Reply.andThen_assoc {σ τ α β γ : Type} (r : Reply σ τ α)
    (next : α → Controller σ τ → Reply σ τ β) (last : β → Controller σ τ → Reply σ τ γ) :
    (r.andThen next).andThen last = r.andThen fun a c => (next a c).andThen last := by
  obtain ⟨result, c⟩ := r
  cases result with
  | ok a => rfl
  | error e => rfl

/-- Only to answer that it is done changes nothing. -/
theorem Reply.andThen_unit {σ τ : Type} (r : Reply σ τ Unit) :
    (r.andThen fun _ c => (.ok (), c)) = r := by
  obtain ⟨result, c⟩ := r
  cases result with
  | ok a => rfl
  | error e => rfl

/-- A last step that only turns the answer leaves the play. -/
theorem Reply.snd_andThen {σ τ α β : Type} (r : Reply σ τ α) (f : α → β) :
    (r.andThen fun a c => (.ok (f a), c)).2 = r.2 := by
  obtain ⟨result, c⟩ := r
  cases result with
  | ok a => rfl
  | error e => rfl

/-! ## Asking in order -/

namespace Controller

variable {σ τ : Type}

section Presenting

variable [Presenter σ]

/-- The play after its presentation was asked for some things, whatever it answered. -/
def asked (c : Controller σ τ) (ds : List Directive) : Controller σ τ :=
  { c with presenter := ds.foldl Presenter.ask c.presenter }

/-- Asks for some things in order, up to the first that is refused. -/
def askAll (c : Controller σ τ) : List Directive → Reply σ τ Unit
  | [] => (.ok (), c)
  | .display d :: ds => (c.display d).askAll ds
  | .transition t :: ds => (c.perform t).andThen fun _ c => c.askAll ds

theorem perform_cases (c : Controller σ τ) (t : Transition) :
    ((Presenter.perform c.presenter t).1 = .ok () ∧ c.perform t = (.ok (), c.asked [.transition t])) ∨
    ∃ e, (Presenter.perform c.presenter t).1 = .error e ∧
      c.perform t = (.error (.presentation e), c.asked [.transition t]) := by
  rcases h : Presenter.perform c.presenter t with ⟨result, p⟩
  simp only [perform, asked, List.foldl_cons, List.foldl_nil, Presenter.ask, h]
  cases result with
  | ok _ => exact .inl ⟨rfl, rfl⟩
  | error e => exact .inr ⟨e, rfl, rfl⟩

/-- **Asking in order.** Everything is asked for, or it ends with the first transition that is refused. -/
theorem askAll_cases (c : Controller σ τ) (ds : List Directive) :
    c.askAll ds = (.ok (), c.asked ds) ∨
    ∃ part e, StopsIn part ds ∧ c.askAll ds = (.error (.presentation e), c.asked part) := by
  induction ds generalizing c with
  | nil => exact .inl rfl
  | cons d ds ih =>
    cases d with
    | display d =>
      rcases ih (c.display d) with hall | ⟨part, e, hpart, hrefused⟩
      · exact .inl hall
      · exact .inr ⟨.display d :: part, e, hpart.cons _, hrefused⟩
    | transition t =>
      rw [askAll]
      rcases c.perform_cases t with ⟨-, ht⟩ | ⟨e, -, ht⟩
      · rw [ht, Reply.andThen_ok]
        rcases ih (c.asked [.transition t]) with hall | ⟨part, e, hpart, hrefused⟩
        · exact .inl hall
        · exact .inr ⟨.transition t :: part, e, hpart.cons _, hrefused⟩
      · rw [ht]
        exact .inr ⟨[.transition t], e, .head t ds, rfl⟩

theorem askAll_append (c : Controller σ τ) (ds es : List Directive) :
    c.askAll (ds ++ es) = (c.askAll ds).andThen fun _ c => c.askAll es := by
  induction ds generalizing c with
  | nil => rfl
  | cons d ds ih =>
    cases d with
    | display d => exact ih (c.display d)
    | transition t =>
      rw [List.cons_append, askAll, askAll]
      rcases c.perform_cases t with ⟨-, ht⟩ | ⟨e, -, ht⟩
      · rw [ht, Reply.andThen_ok, Reply.andThen_ok]
        exact ih _
      · rw [ht]
        rfl

/-- What is only shown is never refused. -/
theorem askAll_displays (c : Controller σ τ) (ds : List Display) :
    c.askAll (ds.map .display) = (.ok (), c.displayAll ds) := by
  induction ds generalizing c with
  | nil => rfl
  | cons d ds ih => exact ih (c.display d)

/-- What comes after asking in order is done to the play that was asked for everything. -/
theorem askAll_andThen_congr {α : Type} {c : Controller σ τ} {ds : List Directive}
    {next next' : Unit → Controller σ τ → Reply σ τ α}
    (h : next () (c.asked ds) = next' () (c.asked ds)) :
    (c.askAll ds).andThen next = (c.askAll ds).andThen next' := by
  rcases c.askAll_cases ds with hall | ⟨part, e, -, hrefused⟩
  · rw [hall, Reply.andThen_ok, Reply.andThen_ok, h]
  · rw [hrefused, Reply.andThen_error, Reply.andThen_error]

end Presenting

/-! ## Leaving and entering -/

/-- What is asked for when the active scene is left. -/
def exitScript (c : Controller σ τ) : List Directive :=
  (c.active.map Scene.exitScript).getD []

/-- The play without an active scene. -/
def vacated (c : Controller σ τ) : Controller σ τ :=
  { c with active := none }

section Presenting

variable [Presenter σ]

/--
Gives up the active scene and asks for a script; the next scene becomes active if nothing of it is
refused.
-/
def enact {α : Type} (c : Controller σ τ) (ds : List Directive) (scene : Scene) (answer : α) :
    Reply σ τ α :=
  (c.vacated.askAll ds).andThen fun _ c => (.ok answer, { c with active := some scene })

/-- The script is asked for as a whole, or up to a refusal, which leaves no scene active. -/
theorem enact_cases {α : Type} (c : Controller σ τ) (ds : List Directive) (scene : Scene) (answer : α) :
    c.enact ds scene answer = (.ok answer, { c.asked ds with active := some scene }) ∨
    ∃ part e, StopsIn part ds ∧
      c.enact ds scene answer = (.error (.presentation e), (c.asked part).vacated) := by
  rw [enact]
  rcases c.vacated.askAll_cases ds with hall | ⟨part, e, hpart, hrefused⟩
  · rw [hall]
    exact .inl rfl
  · rw [hrefused]
    exact .inr ⟨part, e, hpart, rfl⟩

theorem enact_andThen {α β : Type} (c : Controller σ τ) (ds : List Directive) (scene : Scene)
    (answer : α) (answer' : β) :
    ((c.enact ds scene answer).andThen fun _ c => (.ok answer', c)) = c.enact ds scene answer' := by
  rw [enact, enact]
  rcases c.vacated.askAll_cases ds with hall | ⟨part, e, -, hrefused⟩
  · rw [hall]
    rfl
  · rw [hrefused]
    rfl

theorem leave_eq (c : Controller σ τ) : c.leave = c.vacated.askAll c.exitScript := by
  cases h : c.active with
  | none =>
    have hvacated : c.vacated = c := by rw [vacated, ← h]
    rw [leave_of_inactive h, exitScript, h, hvacated]
    rfl
  | some scene =>
    rw [leave_of_active h, exitScript, h, Option.map_some, Option.getD_some, Scene.exitScript,
      askAll_append, askAll_displays, Reply.andThen_ok, askAll]
    rcases (c.vacated.displayAll scene.farewell).perform_cases (.exit scene.id) with
      ⟨-, ht⟩ | ⟨e, -, ht⟩
    · rw [ht]
      exact ht
    · rw [ht]
      exact ht

/-- To leave a scene and enter another one is to ask for both in a row. -/
theorem leave_andThen_enterScene (c : Controller σ τ) (ds : List Display) (scene : Scene) :
    (c.leave.andThen fun _ c => c.enterScene ds scene) =
      c.enact (c.exitScript ++ (ds.map .display ++ [.transition (.enter scene.id)])) scene () := by
  rw [leave_eq, enact, askAll_append]
  rcases c.vacated.askAll_cases c.exitScript with hall | ⟨part, e, -, hrefused⟩
  · rw [hall, Reply.andThen_ok, Reply.andThen_ok, enterScene, askAll_append, askAll_displays,
      Reply.andThen_ok, askAll]
    rcases ((c.vacated.asked c.exitScript).displayAll ds).perform_cases (.enter scene.id) with
      ⟨-, ht⟩ | ⟨e, -, ht⟩
    · rw [ht]
      rfl
    · rw [ht]
      rfl
  · rw [hrefused]
    rfl

/-- The screen of an ending is made from the scenario and the ledger, which no directive changes. -/
theorem leave_andThen_enterGameOver (c : Controller σ τ) (e : Ending) :
    (c.leave.andThen fun _ c => c.enterGameOver e) =
      c.enact (c.exitScript ++ ((c.endingDisplays e).map .display ++ [.transition (.enter .gameOver)]))
        (.gameOver e) () := by
  refine Eq.trans ?_ (c.leave_andThen_enterScene (c.endingDisplays e) (.gameOver e))
  rw [leave_eq]
  exact askAll_andThen_congr rfl

end Presenting

section Playing

variable [Presenter σ] [LedgerStore τ]

theorem switchTo_splash {c : Controller σ τ} (h : c.activeScene ≠ some SceneTarget.splash.id)
    (now : Instant) :
    c.switchTo .splash now =
      c.enact (c.exitScript ++
        [.display (.background c.scenario.config.defaultBackground), .transition (.enter .splash)])
        .splash () := by
  have henter := c.leave_andThen_enterScene [.background c.scenario.config.defaultBackground] .splash
  rw [switchTo, if_neg h]
  refine Eq.trans ?_ henter
  rw [leave_eq]
  exact askAll_andThen_congr rfl

theorem switchTo_gameOver {c : Controller σ τ} {e : Ending}
    (h : c.activeScene ≠ some (SceneTarget.gameOver e).id) (now : Instant) :
    c.switchTo (.gameOver e) now =
      c.enact (c.exitScript ++ ((c.endingDisplays e).map .display ++ [.transition (.enter .gameOver)]))
        (.gameOver e) () := by
  rw [switchTo, if_neg h]
  exact c.leave_andThen_enterGameOver e

theorem switchTo_prompts {c : Controller σ τ} {v : StartVariant}
    (h : c.activeScene ≠ some (SceneTarget.prompts v).id) (now : Instant) :
    c.switchTo (.prompts v) now =
      (c.vacated.askAll (c.exitScript ++ [.transition (.enter .prompts)])).andThen fun _ c =>
        (c.present (Session.begin c.scenario v c.ledger now)).andThen fun _ c => (.ok (), c) := by
  rw [switchTo, if_neg h, leave_eq, askAll_append]
  rcases c.vacated.askAll_cases c.exitScript with hall | ⟨part, e, -, hrefused⟩
  · rw [hall, Reply.andThen_ok, Reply.andThen_ok, enter, enterPrompts, askAll]
    rcases (c.vacated.asked c.exitScript).perform_cases (.enter .prompts) with ⟨-, ht⟩ | ⟨e, -, ht⟩
    · rw [ht]
      rfl
    · rw [ht]
      rfl
  · rw [hrefused]
    rfl

end Playing

/-! ## Arriving -/

section Noting

variable [LedgerStore τ]

/-- The play after an arrival was noted: an ending is marked in the ledger, and the ledger is stored. -/
def noting (c : Controller σ τ) (p : Passage) (now : Instant) : Controller σ τ :=
  match p.outcome with
  | some o =>
    if o.category = .ending then
      persist { c with ledger := c.ledger.markReached p.name (some o.tag) now }
    else c
  | none => c

theorem noting_of_not_ending {c : Controller σ τ} {p : Passage} (h : p.isEnding = false) (now : Instant) :
    c.noting p now = c := by
  rw [noting]
  split
  · next o ho =>
    refine if_neg fun hcat => ?_
    rw [Passage.isEnding_eq_true_iff.2 ⟨o, ho, hcat⟩] at h
    cases h
  · rfl

theorem noting_of_ending {c : Controller σ τ} {p : Passage} {o : Outcome} (h : p.outcome = some o)
    (ho : o.category = .ending) (now : Instant) :
    c.noting p now = persist { c with ledger := c.ledger.markReached p.name (some o.tag) now } := by
  simp only [noting, h, ho, if_true]

theorem noting_eq (c : Controller σ τ) (p : Passage) (now : Instant) :
    (c.noting p now).scenario = c.scenario ∧ (c.noting p now).presenter = c.presenter := by
  cases hend : p.isEnding with
  | false =>
    rw [noting_of_not_ending hend]
    exact ⟨rfl, rfl⟩
  | true =>
    obtain ⟨o, ho, hcat⟩ := Passage.isEnding_eq_true_iff.1 hend
    rw [noting_of_ending ho hcat]
    exact ⟨rfl, rfl⟩

/-- What is noted does not depend on the active scene. -/
theorem noting_vacated (c : Controller σ τ) (p : Passage) (now : Instant) :
    c.vacated.noting p now = (c.noting p now).vacated := by
  cases hend : p.isEnding with
  | false => rw [noting_of_not_ending hend, noting_of_not_ending hend]
  | true =>
    obtain ⟨o, ho, hcat⟩ := Passage.isEnding_eq_true_iff.1 hend
    rw [noting_of_ending ho hcat, noting_of_ending ho hcat]
    rfl

/-- What is noted does not depend on the presentation. -/
theorem noting_asked [Presenter σ] (c : Controller σ τ) (ds : List Directive) (p : Passage)
    (now : Instant) : (c.asked ds).noting p now = (c.noting p now).asked ds := by
  cases hend : p.isEnding with
  | false => rw [noting_of_not_ending hend, noting_of_not_ending hend]
  | true =>
    obtain ⟨o, ho, hcat⟩ := Passage.isEnding_eq_true_iff.1 hend
    rw [noting_of_ending ho hcat, noting_of_ending ho hcat]
    rfl

end Noting

section Playing

variable [Presenter σ] [LedgerStore τ]

/-- What became of the choice that led to a passage. -/
def arrivalAnswer (p : Passage) : Dispatch :=
  if p.isEnding then .transitioned else .handled

/--
**Arriving.** An ending is noted and stored first of all. Then the script of the passage is asked for,
with the progress that the ledger has by now.
-/
theorem present_arrive (c : Controller σ τ) (s : Session) (p : Passage) (now : Instant) :
    c.present (s.arrive c.scenario c.ledger p now) =
      (c.noting p now).enact
        (c.scenario.script (c.noting p now).ledger.reachedCount (c.noting p now).ledger.total p)
        (s.sceneAt c.scenario p) (arrivalAnswer p) := by
  cases hend : p.isEnding with
  | false =>
    rw [noting_of_not_ending hend, Session.arrive_of_not_ending hend,
      present_of_staying (Scenario.stepOf_ne_ending hend), arrivalAnswer, hend]
    cases hshown : p.isShown with
    | true =>
      rw [Scenario.script_of_isShown hshown, Session.sceneAt, Scenario.stepOf_of_isShown hshown, enact,
        askAll_displays, Reply.andThen_ok, displayAll_eq, displayAll_eq]
      rfl
    | false =>
      rw [Scenario.script_of_menu hend hshown, Session.sceneAt,
        Scenario.stepOf_of_not_isShown hend hshown]
      rfl
  | true =>
    obtain ⟨o, ho, hcat⟩ := Passage.isEnding_eq_true_iff.1 hend
    rw [noting_of_ending ho hcat, Session.arrive_of_ending ho hcat, present_of_ending rfl, arrivalAnswer,
      if_pos hend, Session.sceneAt, Scenario.stepOf_of_ending ho hcat, ← Reply.andThen_assoc,
      leave_andThen_enterGameOver, enact_andThen, endingDisplays, Scenario.script, if_pos hend]
    rw [← Scenario.endingBackground_ending ho]
    rfl

/-- Going to the prompts is to enter them and then to arrive at the start with a new session. -/
theorem switchTo_prompts_arrive {c : Controller σ τ} {v : StartVariant}
    (h : c.activeScene ≠ some (SceneTarget.prompts v).id) (now : Instant) :
    c.switchTo (.prompts v) now =
      (c.vacated.askAll (c.exitScript ++ [.transition (.enter .prompts)])).andThen fun _ c =>
        let p := c.scenario.story.startPassage v
        (c.noting p now).enact
          (c.scenario.script (c.noting p now).ledger.reachedCount (c.noting p now).ledger.total p)
          (Session.fresh.sceneAt c.scenario p) () := by
  rw [switchTo_prompts h]
  congr 1
  funext _ c
  rw [Session.begin_eq, present_arrive, enact_andThen]

/--
The prompts are not reached, or they are entered and a new session arrives at the start.
-/
theorem switchTo_prompts_cases {c : Controller σ τ} {v : StartVariant}
    (h : c.activeScene ≠ some (SceneTarget.prompts v).id) (now : Instant) :
    (∃ part e, StopsIn part (c.exitScript ++ [.transition (.enter .prompts)]) ∧
      c.switchTo (.prompts v) now = (.error (.presentation e), (c.asked part).vacated)) ∨
    ∃ c' : Controller σ τ,
      c' = (c.asked (c.exitScript ++ [.transition (.enter .prompts)])).noting
        (c.scenario.story.startPassage v) now ∧
      c.switchTo (.prompts v) now =
        c'.enact (c.scenario.script c'.ledger.reachedCount c'.ledger.total
          (c.scenario.story.startPassage v))
          (Session.fresh.sceneAt c.scenario (c.scenario.story.startPassage v)) () := by
  rw [switchTo_prompts_arrive h]
  rcases c.vacated.askAll_cases (c.exitScript ++ [.transition (.enter .prompts)]) with
    hall | ⟨part, e, hpart, hrefused⟩
  · refine .inr ⟨_, rfl, ?_⟩
    rw [hall, Reply.andThen_ok]
    -- What was active before makes no difference to an arrival.
    have hnoted := noting_vacated (c.asked (c.exitScript ++ [.transition (.enter .prompts)]))
      (c.scenario.story.startPassage v) now
    have harrive := congrArg (fun c' : Controller σ τ => c'.enact
      (c.scenario.script c'.ledger.reachedCount c'.ledger.total (c.scenario.story.startPassage v))
      (Session.fresh.sceneAt c.scenario (c.scenario.story.startPassage v)) ()) hnoted
    exact harrive
  · rw [hrefused]
    exact .inl ⟨part, e, hpart, rfl⟩

/--
**All that a choice can do.** It is ignored, or its number is refused, or a new session is begun, or
the live session arrives at a passage.
-/
theorem dispatch_cases (c : Controller σ τ) (choice : UserChoice) (now : Instant) :
    (c.accepts choice = false ∧ c.dispatch choice now = (.ok .ignored, c)) ∨
    (∃ s id e, c.active = some (.prompts s) ∧ choice = .passage id ∧
      s.choose c.scenario c.ledger id now = .error e ∧
      c.dispatch choice now = (.error (.session e), c)) ∨
    (∃ v, c.accepts choice = true ∧ choice.call = .begin v ∧
      c.activeScene ≠ some (SceneTarget.prompts v).id ∧
      c.dispatch choice now = (c.switchTo (.prompts v) now).andThen fun _ c => (.ok .transitioned, c)) ∨
    ∃ s id p c', c.active = some (.prompts s) ∧ choice = .passage id ∧
      c.scenario.story.get? id = some p ∧ c' = c.noting p now ∧
      c.dispatch choice now =
        c'.enact (c.scenario.script c'.ledger.reachedCount c'.ledger.total p) (s.sceneAt c.scenario p)
          (arrivalAnswer p) := by
  cases haccepts : c.accepts choice with
  | false => exact .inl ⟨rfl, dispatch_of_not_accepts haccepts now⟩
  | true =>
    right
    revert haccepts
    fun_cases accepts c choice
    case case1 v hactive =>
      intro _
      refine .inr (.inl ⟨v, rfl, rfl, ?_, ?_⟩)
      · rw [activeScene, hactive]
        intro h
        cases h
      · simp only [dispatch, hactive]
    case case2 s id hactive =>
      intro _
      rcases s.choose_cases c.scenario c.ledger id now with ⟨-, he⟩ | ⟨-, -, he⟩ | ⟨-, p, hp, ha⟩
      · exact .inl ⟨s, id, _, hactive, rfl, he, by simp only [dispatch, hactive, he]⟩
      · exact .inl ⟨s, id, _, hactive, rfl, he, by simp only [dispatch, hactive, he]⟩
      · refine .inr (.inr ⟨s, id, p, _, hactive, rfl, hp, rfl, ?_⟩)
        simp only [dispatch, hactive, ha]
        exact c.present_arrive s p now
    case case3 e hactive =>
      intro _
      refine .inr (.inl ⟨.default, rfl, rfl, ?_, ?_⟩)
      · rw [activeScene, hactive]
        intro h
        cases h
      · simp only [dispatch, hactive]
    case case4 =>
      intro h
      cases h

/-! ## Presentations during a run -/

/-- **The rule of presentations.** What a presentation keeps whatever is asked, it keeps in every run. -/
theorem after_of_presentations {P : σ → Prop} (hask : ∀ p d, P p → P (Presenter.ask p d))
    {c : Controller σ τ} (hc : P c.presenter) (ops : List (Operation × Instant)) :
    (c.after ops).scenario = c.scenario ∧ P (c.after ops).presenter := by
  have hshow : ∀ (ds : List Display) (p : σ), P p → P (ds.foldl Presenter.display p) := by
    intro ds
    induction ds with
    | nil => exact fun p hp => hp
    | cons d ds ih => exact fun p hp => ih _ (hask p (.display d) hp)
  have hperform : ∀ {p q : σ} {t : Transition} {result : Except PresentationError Unit}, P p →
      Presenter.perform p t = (result, q) → P q := by
    intro p q t result hp hq
    have := hask p (.transition t) hp
    rwa [Presenter.ask, hq] at this
  have hmoves : ∀ (op : Operation) (now : Instant), Moves (σ := σ) (τ := τ) c.scenario op now
      (fun c' => c'.scenario = c.scenario ∧ P c'.presenter)
      (fun c' => c'.scenario = c.scenario ∧ P c'.presenter)
      (fun c' => c'.scenario = c.scenario ∧ P c'.presenter)
      (fun _ c' => c'.scenario = c.scenario ∧ P c'.presenter)
      (fun _ c' => c'.scenario = c.scenario ∧ P c'.presenter) := by
    intro op now
    constructor
    case scenario => exact fun c' hc' => hc'.1
    case prepare =>
      exact fun c' hc' => perform_ensures (fun _ hp => ⟨hc'.1, hperform hc'.2 hp⟩)
        fun _ _ hp => ⟨hc'.1, hperform hc'.2 hp⟩
    case leaves => exact fun c' hc' => hc'
    case leave =>
      exact fun c' hc' => leave_ensures (fun _ => hc')
        (fun _ _ _ hp => ⟨hc'.1, hperform (hshow _ _ hc'.2) hp⟩)
        fun _ _ _ _ hp => ⟨hc'.1, hperform (hshow _ _ hc'.2) hp⟩
    case enterScene =>
      exact fun c' ds scene hc' _ => enterScene_ensures
        (fun _ hp => ⟨hc'.1, hperform (hshow _ _ hc'.2) hp⟩)
        fun _ _ hp => ⟨hc'.1, hperform (hshow _ _ hc'.2) hp⟩
    case enterPrompts =>
      exact fun c' hc' => perform_ensures (fun _ hp => ⟨hc'.1, hc'.1, hperform hc'.2 hp⟩)
        fun _ _ hp => ⟨hc'.1, hperform hc'.2 hp⟩
    case arrives => exact fun c' s hc' _ => hc'
    case stay =>
      intro c' s id p hc' _ _ _ ds
      rw [displayAll_eq]
      exact ⟨hc'.1, hshow _ _ hc'.2⟩
    case finish => exact fun c' s id p o hc' _ _ _ _ => hc'
    case refuse => exact fun c' s id e _ hc' _ _ => hc'
  exact after_of_moves hmoves (fun _ _ _ hc' => hc') ⟨rfl, hc⟩ ops

end Playing

end Controller

/-! ## Notes of what was asked -/

namespace Watched

variable {σ : Type} [Presenter σ]

theorem foldl_ask (w : Watched σ (List Directive)) (ds : List Directive) :
    ds.foldl Presenter.ask w =
      { w with inner := ds.foldl Presenter.ask w.inner, notes := ds.foldl w.note w.notes } := by
  induction ds generalizing w with
  | nil => rfl
  | cons d ds ih => rw [List.foldl_cons, ih, Presenter.ask_watched]; rfl

theorem foldl_jot (notes ds : List Directive) : ds.foldl jot notes = notes ++ ds := by
  induction ds generalizing notes with
  | nil => exact (List.append_nil notes).symm
  | cons d ds ih => rw [List.foldl_cons, ih, jot, List.append_assoc, List.singleton_append]

end Watched

namespace Controller

variable {σ τ : Type} [Presenter σ]

/-- What is asked for is noted, in order. -/
theorem notes_asked {c : Controller (Watched σ (List Directive)) τ} (h : c.presenter.note = Watched.jot)
    (ds : List Directive) : (c.asked ds).presenter.notes = c.presenter.notes ++ ds := by
  rw [asked, Watched.foldl_ask, h]
  exact Watched.foldl_jot ..

theorem note_asked (c : Controller (Watched σ (List Directive)) τ) (ds : List Directive) :
    (c.asked ds).presenter.note = c.presenter.note := by
  rw [asked, Watched.foldl_ask]

end Controller

end VisualNovel
