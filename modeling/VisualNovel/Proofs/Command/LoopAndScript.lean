/-
  VisualNovel.Proofs.Command.LoopAndScript

  Playing lines as events and as a script. A loop to which each line is sent when
  it waits for one replays the script on all lines. A loop to which all lines were
  sent beforehand replays it on the lines up to the first change of scene. Both
  hold with all that is asked of the terminal noted along the way
  (`loop_agrees_with_script`).
-/

import VisualNovel.Command.Play
import VisualNovel.Proofs.EventLoop.Feeding
import VisualNovel.Store.FileTree

namespace VisualNovel.Command

open Time (Instant)

namespace Player

variable {σ : Type} [Volume σ]

/-- Texts can be read. -/
theorem readable_map_ok (lines : List String) : readable (lines.map .ok) = lines := by
  induction lines with
  | nil => rfl
  | cons line lines ih => exact congrArg (line :: ·) ih

/-- A script of texts, where all lines are handled at one instant. -/
theorem script_map_ok (now : Instant) (c : Player σ) (lines : List String) (n : Nat) :
    script now c (lines.map .ok) =
      ((c.scripted Terminal.interpret (fun _ => now) n lines).1.mapError .play,
        (c.scripted Terminal.interpret (fun _ => now) n lines).2) := by
  induction lines generalizing c n with
  | nil => rfl
  | cons line lines ih =>
    rcases hhandle : c.handle Terminal.interpret line now with ⟨verdict, c'⟩
    simp only [List.map_cons, script, Controller.scripted, hhandle]
    cases verdict with
    | goesOn => exact ih c' (n + 1)
    | changedScene => exact ih c' (n + 1)
    | quits => rfl
    | fails e => rfl

/-- Lines that are sent beforehand are a script that ends with the first change of scene. -/
theorem interactive_map_ok (now : Instant) (c : Player σ) (lines : List String) :
    interactive now c (lines.map .ok) =
      script now c ((c.upToChange Terminal.interpret (fun _ => now) 0 lines).map .ok) := by
  obtain ⟨f, hreaches, hloop⟩ := Feed.exists_reaches_run Terminal.interpret now c lines
  have hreplays := Feed.replays_beforehand Terminal.interpret (fun _ => now) c lines
  have hended : f.loop.result ≠ none := by
    rw [hloop]
    exact EventLoop.result_close_ne_none _
  obtain ⟨r, hr⟩ := Option.ne_none_iff_exists'.1 hended
  have hscripted := (hreplays.ended f r hreaches hr).2
  simp only [Feed.beforehand] at hscripted
  rw [script_map_ok now c _ 0, hscripted, interactive, readable_map_ok]
  simp only [← hloop, hr]
  cases r with
  | error e => rfl
  | ok _ => rfl

end Player

/--
**The loop and the script agree.** By any clock the loop passes through the same plays as the script of
its lines and ends as the script does: of all lines, if each is sent when the loop waits for one, and of
those up to the first change of scene, if all are sent beforehand. With them agree the directives, which
can be noted without any difference to the script. At one instant the scripts are those of a player.
-/
theorem loop_agrees_with_script :
    (∀ {τ : Type} [LedgerStore τ] (c : Controller Terminal τ) (clock : Nat → Instant) (lines : List String),
      let noted := c.watched Watched.jot []
      let interpret := Watched.reads Terminal.interpret
      Feed.AgreesWithScript Terminal.interpret clock c lines ∧
      Feed.AgreesWithScript interpret clock noted lines ∧
      (noted.handlings interpret clock 0 lines).map (fun h => (h.1, h.2.unwatched)) =
        c.handlings Terminal.interpret clock 0 lines ∧
      noted.upToChange interpret clock 0 lines = c.upToChange Terminal.interpret clock 0 lines ∧
      c.scripted Terminal.interpret clock 0 lines = ((noted.scripted interpret clock 0 lines).1,
        (noted.scripted interpret clock 0 lines).2.unwatched)) ∧
    ∀ {σ : Type} [Volume σ] (c : Player σ) (now : Instant) (lines : List String),
      Player.script now c (lines.map .ok) =
        ((c.scripted Terminal.interpret (fun _ => now) 0 lines).1.mapError .play,
          (c.scripted Terminal.interpret (fun _ => now) 0 lines).2) ∧
      Player.interactive now c (lines.map .ok) =
        Player.script now c ((c.upToChange Terminal.interpret (fun _ => now) 0 lines).map .ok) := by
  constructor
  · intro τ _ c clock lines noted interpret
    have hjot : noted.presenter.note = Watched.jot := rfl
    refine ⟨?_, ?_, ?_, ?_, ?_⟩
    · exact Feed.agreesWithScript Terminal.interpret clock c lines
    · exact Feed.agreesWithScript interpret clock noted lines
    · exact Controller.handlings_unwatched hjot 0 lines
    · exact Controller.upToChange_unwatched hjot 0 lines
    · exact Controller.scripted_unwatched hjot 0 lines
  · intro σ _ c now lines
    exact ⟨Player.script_map_ok now c lines 0, Player.interactive_map_ok now c lines⟩

/-- The start of a story changes the scene, so the choice that is typed ahead is lost. -/
example :
    let player : Player FileTree :=
      Controller.brief { assets := .empty, palette := .plain } ⟨FileTree.empty, "saves"⟩
    (player.start .newYear).2.upToChange Terminal.interpret (fun _ => .newYear) 0 ["?", "s", "1", "q"] =
      ["?", "s"] := by
  decide +kernel

end VisualNovel.Command
