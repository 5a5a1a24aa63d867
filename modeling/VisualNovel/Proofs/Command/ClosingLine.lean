/-
  VisualNovel.Proofs.Command.ClosingLine

  The closing line of a play and the screens of endings before it. Whether its
  lines come from a script or are sent to the loop of events, a play is its start
  and one line handled after another (`play_snd`). So it can be watched by someone
  who notes all that the terminal is asked, hints apart (`overheard`), and these
  notes report the counts that the closing line shows (`reports_agree`).
-/

import VisualNovel.Command.Play
import VisualNovel.Proofs.EventLoop.Handling
import VisualNovel.Proofs.Scene.ProgressReports
import VisualNovel.Store.FileTree
import VisualNovel.Store.Memory

namespace VisualNovel

open Directive (reports)
open Presenter (Acknowledges)
open Time (Instant)

/-! ## A terminal that is watched -/

/-- A terminal refuses nothing. -/
theorem Terminal.acknowledges (t : Terminal) : Acknowledges t :=
  fun _ _ => perform_fst ..

namespace Controller

/-- A start is not refused where nothing is. -/
theorem start_fst_of_acknowledges {σ τ : Type} [Presenter σ] [LedgerStore τ] {c : Controller σ τ}
    (hp : Acknowledges c.presenter) (now : Instant) : (c.start now).1 = .ok () := by
  have hprepared : Acknowledges (c.asked [.transition .prepare]).presenter := hp.ask (.transition .prepare)
  rw [start, perform_of_acknowledges hp, Reply.andThen_ok]
  by_cases hscene : (c.asked [.transition .prepare]).activeScene = some SceneTarget.splash.id
  · rw [switchTo, if_pos hscene]
  · rw [switchTo_splash hscene, enact_of_acknowledges hprepared]

section Overhearing

variable {τ ε : Type} {interpret : Terminal → ε → Input × Terminal} {l : Ledger}
  {c c' : Controller (Watched Terminal (List Directive)) τ}

/-- All that was asked of the terminal is noted, and the notes report how the ledger went on. -/
structure Overhears (l : Ledger) (c : Controller (Watched Terminal (List Directive)) τ) : Prop where
  note_eq : c.presenter.note = Watched.jot
  reported : Reported l c.ledger c.presenter.notes

theorem Overhears.tells (h : c.Overhears l) {log : List Directive} (hlog : c.Tells c' log) :
    c'.Overhears l := by
  obtain ⟨hnotes, hnote⟩ := hlog.notes_eq h.note_eq
  exact ⟨hnote, hnotes ▸ h.reported.trans hlog.reported⟩

variable [LedgerStore τ]

theorem Overhears.handle (h : c.Overhears l) (event : ε) (now : Instant) :
    (c.handle (Watched.reads interpret) event now).2.Overhears l := by
  have hread : (c.reading (Watched.reads interpret) event).Overhears l := ⟨h.note_eq, h.reported⟩
  rcases c.handle_cases (Watched.reads interpret) event now with ⟨choice, -, heq⟩ | ⟨-, heq⟩
  · have hp : Acknowledges (c.reading (Watched.reads interpret) event).presenter :=
      (Terminal.acknowledges _).watched _ _
    obtain ⟨log, hlog⟩ := tells_dispatch hp choice now
    rw [heq]
    exact hread.tells hlog
  · rw [heq]
    exact hread

theorem Overhears.handleEach (h : c.Overhears l) (now : Instant) (events : List ε) :
    (c.handleEach (Watched.reads interpret) now events).Overhears l := by
  induction events generalizing c with
  | nil => exact h
  | cons event events ih => exact ih (h.handle event now)

end Overhearing

end Controller

namespace Command

namespace Player

variable {σ : Type} [Volume σ]

/-! ## Plays -/

/-- The lines of a script that are handled. -/
def followed (now : Instant) (c : Player σ) : List InputLine → List String
  | .ok line :: rest =>
    let (verdict, c) := c.handle Terminal.interpret line now
    line :: if verdict.isEnd then [] else followed now c rest
  | _ => []

/-- The lines of input that a play handles once it is started. -/
def heard (c : Player σ) (isScript : Bool) (lines : List InputLine) (now : Instant) : List String :=
  if isScript then followed now c lines
  else (c.run Terminal.interpret (readable lines) now).interpreted

theorem script_snd (now : Instant) (c : Player σ) (lines : List InputLine) :
    (script now c lines).2 = c.handleEach Terminal.interpret now (followed now c lines) := by
  induction lines generalizing c with
  | nil => rfl
  | cons line lines ih =>
    cases line with
    | error e => rfl
    | ok line =>
      rcases hhandle : c.handle Terminal.interpret line now with ⟨verdict, c'⟩
      simp only [script, followed, Controller.handleEach_cons, hhandle]
      -- Two verdicts go on with the rest of the script, the others end it.
      cases verdict with
      | goesOn => exact ih c'
      | changedScene => exact ih c'
      | quits => rfl
      | fails e => rfl

theorem interactive_snd (now : Instant) (c : Player σ) (lines : List InputLine) :
    (interactive now c lines).2 = c.handleEach Terminal.interpret now
      (c.run Terminal.interpret (readable lines) now).interpreted := by
  have hrun := EventLoop.handled_run Terminal.interpret now c (readable lines)
  rw [interactive]
  split
  · exact hrun
  · exact hrun

/-- **A play is its start and one line after another.** -/
theorem play_snd (c : Player σ) (isScript : Bool) (lines : List InputLine) (now : Instant) :
    (c.play isScript lines now).2 =
      Controller.handleEach Terminal.interpret now (c.start now).2
        (heard (c.start now).2 isScript lines now) := by
  have hbegin : c.begin now = (.ok (), (c.start now).2) := by
    have hstart := Controller.start_fst_of_acknowledges c.presenter.acknowledges now
    exact Prod.ext (congrArg (Except.mapError Failure.play) hstart) rfl
  simp only [play, hbegin, heard]
  cases isScript with
  | true => exact script_snd now _ lines
  | false => exact interactive_snd now _ lines

/-- A play whose terminal is watched, from the start on and through the lines that are handled. -/
def overheard (c : Player σ) (isScript : Bool) (lines : List InputLine) (now : Instant) :
    Controller (Watched Terminal (List Directive)) (FileStore σ) :=
  Controller.handleEach (Watched.reads Terminal.interpret) now
    ((c.watched Watched.jot []).start now).2 (heard (c.start now).2 isScript lines now)

/-- It is the same play. -/
theorem overheard_unwatched (c : Player σ) (isScript : Bool) (lines : List InputLine) (now : Instant) :
    (c.overheard isScript lines now).unwatched = (c.play isScript lines now).2 := by
  have hjot : (c.watched Watched.jot []).presenter.note = Watched.jot := rfl
  obtain ⟨hstart, hnote⟩ := Controller.start_unwatched hjot now
  rw [overheard, Controller.handleEach_unwatched hnote, hstart, play_snd]
  rfl

theorem overhears_overheard (c : Player σ) (isScript : Bool) (lines : List InputLine) (now : Instant) :
    (c.overheard isScript lines now).Overhears c.ledger := by
  have hsilent : (c.watched Watched.jot []).Overhears c.ledger := ⟨rfl, .silent _ rfl⟩
  obtain ⟨log, hlog⟩ := Controller.tells_start (c := c.watched Watched.jot [])
    (c.presenter.acknowledges.watched Watched.jot []) now
  exact (hsilent.tells hlog).handleEach now _

end Player

/--
**The reports agree.** While nothing is refused, the reports of a run have the ledger's total, count
up by at most one from each to the next, and end with what the ledger counts. So the closing line of a
play shows what was reported last, or what the ledger had before.
-/
theorem reports_agree :
    (∀ {σ τ : Type} [Presenter σ] [LedgerStore τ] (c : Controller σ τ) (ops : List (Operation × Instant)),
      Acknowledges c.presenter → Reported c.ledger (c.after ops).ledger (c.issued ops)) ∧
    (∀ {σ : Type} [Volume σ] (c : Player σ) (isScript : Bool) (lines : List InputLine) (now : Instant),
      let heard := c.overheard isScript lines now
      let c' := (c.play isScript lines now).2
      let last := (reports heard.presenter.notes).getLastD (c.ledger.reachedCount, c.ledger.total)
      heard.unwatched = c' ∧ Reported c.ledger c'.ledger heard.presenter.notes ∧
        Player.output c' (.ok ()) = c'.presenter.printed ++
          ["", "  " ++ c'.presenter.palette.paint .bold "Endings found:" ++ " " ++
            (toString last.1 ++ "/" ++ toString last.2)]) := by
  constructor
  · intro σ τ _ _ c ops hp
    exact Controller.reported_issued hp ops
  · intro σ _ c isScript lines now heard c' last
    have hsame : heard.unwatched = c' := c.overheard_unwatched isScript lines now
    have hreported : Reported c.ledger c'.ledger heard.presenter.notes := by
      rw [← hsame]
      exact (c.overhears_overheard isScript lines now).reported
    have hlast : last = (c'.ledger.reachedCount, c'.ledger.total) := hreported.getLastD_eq
    refine ⟨hsame, hreported, ?_⟩
    rw [hlast]
    rfl

/-- The one ending is reached and reported, on a terminal for a second time, too. -/
theorem reports_agree_briefly :
    let c := Controller.brief (Recorder.refusingAt []) MemoryStore.empty
    let player : Player FileTree :=
      Controller.brief { assets := .empty, palette := .plain } ⟨FileTree.empty, "saves"⟩
    let lines : List InputLine := ["s", "1", "r", "1", "q"].map .ok
    let player' := (player.play true lines .newYear).2
    Acknowledges c.presenter ∧ reports (c.issued Operation.brief) = [(1, 1)] ∧
      Reported c.ledger (c.after Operation.brief).ledger (c.issued Operation.brief) ∧
      reports (player.overheard true lines .newYear).presenter.notes = [(1, 1), (1, 1)] ∧
      Player.output player' (.ok ()) = player'.presenter.printed ++
        ["", "  " ++ player'.presenter.palette.paint .bold "Endings found:" ++ " " ++
          "1/1"] := by
  intro c player lines player'
  have hp : Acknowledges c.presenter := Recorder.acknowledges rfl fun _ _ => rfl
  have hreports : reports (player.overheard true lines .newYear).presenter.notes = [(1, 1), (1, 1)] := by
    decide +kernel
  have houtput := (reports_agree.2 player true lines .newYear).2.2
  simp only [hreports] at houtput
  have hratio : toString 1 ++ "/" ++ toString 1 = "1/1" := by decide +kernel
  rw [← hratio]
  exact ⟨hp, by decide +kernel, reports_agree.1 c Operation.brief hp, hreports, houtput⟩

end Command

end VisualNovel
