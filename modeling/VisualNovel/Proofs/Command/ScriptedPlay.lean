/-
  VisualNovel.Proofs.Command.ScriptedPlay

  A script is a reading with all lines at one instant (`play_script_eq`). So the
  terminal and the play agree after any lines, whatever the store does, and a
  script cannot fail once the play is set up and its input is a text.
-/

import VisualNovel.Command.Run
import VisualNovel.Proofs.Command.InputLines
import VisualNovel.Proofs.Scene.Reading
import VisualNovel.Store.FileTree
import VisualNovel.Store.Memory

namespace VisualNovel

open Time (Instant)

/-! ## Agreement -/

namespace Controller

variable {τ : Type} [LedgerStore τ]

/--
The terminal and the play agree: a scene is active, it is the one on screen, and every decision that
a line is understood as is taken there.
-/
structure Agrees (c : Controller Terminal τ) : Prop where
  scene : c.presenter.scene = c.activeScene
  active : c.activeScene ≠ none
  taken : ∀ line choice now, (c.presenter.interpret line).1 = .choice choice →
    ∃ d, d ≠ .ignored ∧
      (dispatch { c with presenter := (c.presenter.interpret line).2 } choice now).1 = .ok d

theorem Follows.agrees {sc : Scenario} {w : Walk} {c : Controller Terminal τ} (h : c.Follows sc w) :
    c.Agrees where
  scene := h.stands.scene
  active := by
    rw [h.stands.active]
    nofun
  taken line choice now hline := by
    obtain ⟨hscreen, hoffers⟩ := Terminal.offers_of_choice hline
    have hdispatch := h.dispatch hoffers now
    rw [hscreen]
    rcases hreply : c.dispatch choice now with ⟨result, c'⟩
    rw [hreply] at hdispatch
    cases result with
    | ok d => exact ⟨d, hdispatch.1, rfl⟩
    | error e => exact hdispatch.elim

/-- A play that was hydrated on a fresh terminal opens well, and follows its walk after any lines. -/
theorem follows_of_hydrate {sc : Scenario} {assets : AssetManifest} {palette : Text.Palette} {store : τ}
    {c : Controller Terminal τ} (h : hydrate sc ({ assets, palette } : Terminal) store = .ok c)
    (now : Instant) :
    (c.start now).1 = .ok () ∧ (Reading.opening c now).isOver = false ∧
      (Reading.opening c now).Follows sc := by
  obtain ⟨hsc, hpresenter, -, hactive, -⟩ := eq_of_hydrate h
  rw [← hsc]
  apply Reading.follows_opening hactive
  rw [hpresenter]

end Controller

/-! ## Scripts -/

namespace Command

namespace Player

variable {σ : Type} [Volume σ]

/-- A line after which the play is not over is followed by the next one. -/
theorem script_of_goes {c : Player σ} {line : String} {now : Instant}
    (h : (c.handle Terminal.interpret line now).1.isEnd = false) (rest : List InputLine) :
    script now c (.ok line :: rest) = script now (c.handle Terminal.interpret line now).2 rest := by
  rcases hhandle : c.handle Terminal.interpret line now with ⟨verdict, c'⟩
  rw [hhandle] at h
  simp only [script, hhandle]
  cases verdict with
  | goesOn => rfl
  | changedScene => rfl
  | quits => cases h
  | fails e => cases h

theorem script_of_quits {c : Player σ} {line : String} {now : Instant}
    (h : (c.handle Terminal.interpret line now).1 = .quits) (rest : List InputLine) :
    script now c (.ok line :: rest) = (.ok (), (c.handle Terminal.interpret line now).2) := by
  rcases hhandle : c.handle Terminal.interpret line now with ⟨verdict, c'⟩
  rw [hhandle] at h
  cases h
  simp only [script, hhandle]

/-- A script of texts is a reading, and does not fail. -/
theorem script_eq {sc : Scenario} {r : Reading (FileStore σ)} (h : r.Follows sc) (hgoes : r.isOver = false)
    (now : Instant) (lines : List String) :
    script now r.play (lines.map .ok) = (.ok (), (r.after (lines.map fun l => (l, now))).play) := by
  induction lines generalizing r with
  | nil => rfl
  | cons line lines ih =>
    have hread := Reading.read_of_goes hgoes line now
    have hafter : r.after ((line :: lines).map fun l => (l, now)) =
        (r.read line now).after (lines.map fun l => (l, now)) := rfl
    rw [List.map_cons, hafter]
    cases hend : (r.play.handle Terminal.interpret line now).1.isEnd with
    | false =>
      have hplay : (r.play.handle Terminal.interpret line now).2 = (r.read line now).play := by
        rw [hread]
      rw [script_of_goes hend, hplay]
      exact ih (h.read line now).1 (by rw [hread, hend])
    | true =>
      -- The lines that are left are not read.
      have hquits := h.quits_of_isEnd hend
      rw [script_of_quits hquits, Reading.after_of_over (by rw [hread, hend]), hread]

/-- A play that was set up was hydrated on a fresh terminal. -/
theorem exists_hydrate_of_setUp {volume volume' : σ} {palette : Text.Palette} {story : String}
    {assets : Option String} {directory : String} {c : Player σ}
    (h : setUp volume palette story assets directory = (.ok c, volume')) :
    ∃ sc manifest, ∃ store : FileStore σ,
      Controller.hydrate sc ({ assets := manifest, palette } : Terminal) store = .ok c := by
  simp only [setUp] at h
  split at h
  · cases h
  · next s manifest _ =>
    split at h
    · cases h
    · next made _ =>
      -- Only the result of the hydration is left.
      refine ⟨⟨s, manifest, {}⟩, manifest, ⟨made, directory⟩, ?_⟩
      have hresult := congrArg Prod.fst h
      cases hhydrate : Controller.hydrate ⟨s, manifest, {}⟩ ({ assets := manifest, palette } : Terminal)
        (⟨made, directory⟩ : FileStore σ) with
      | ok c' =>
        rw [hhydrate] at hresult
        cases hresult
        rfl
      | error e =>
        rw [hhydrate] at hresult
        cases hresult

/-- **A script is a reading.** With a text as its input it handles the lines of the text and succeeds. -/
theorem play_script_eq {volume volume' : σ} {palette : Text.Palette} {story : String}
    {assets : Option String} {directory : String} {c : Player σ}
    (h : setUp volume palette story assets directory = (.ok c, volume')) (now : Instant)
    (input : String) :
    c.play true (inputLines input.toUTF8.data.toList) now = (.ok (),
      ((Reading.opening c now).after
        ((Text.lines input.toList).map fun l => (.ofList l, now))).play) := by
  obtain ⟨sc, manifest, store, hhydrate⟩ := exists_hydrate_of_setUp h
  obtain ⟨hstart, hgoes, hfollows⟩ := Controller.follows_of_hydrate hhydrate now
  have hbegin : c.begin now = (.ok (), (Reading.opening c now).play) :=
    Prod.ext (congrArg (Except.mapError Failure.play) hstart) rfl
  have hscript := script_eq hfollows hgoes now ((Text.lines input.toList).map String.ofList)
  rw [play, hbegin, inputLines_toUTF8]
  simpa [Function.comp_def] using hscript

end Player

/--
**The terminal and the play agree.** A play that was hydrated on a fresh terminal starts, and the two
agree after any lines, with any store. So a script that is a text succeeds once its play is set up.
-/
theorem terminal_agrees :
    (∀ {τ : Type} [LedgerStore τ] (sc : Scenario) (assets : AssetManifest) (palette : Text.Palette)
        (store : τ) (c : Controller Terminal τ) (now : Instant) (lines : List (String × Instant)),
      Controller.hydrate sc ({ assets, palette } : Terminal) store = .ok c →
      (c.start now).1 = .ok () ∧ ((Reading.opening c now).after lines).play.Agrees) ∧
    (∀ {σ : Type} [Volume σ] (volume volume' : σ) (around : Surroundings) (story : String)
        (assets : Option String) (directory input : String) (c : Player σ),
      Player.setUp volume around.palette story assets directory = (.ok c, volume') →
      around.input = input.toUTF8.data.toList →
      c.play true (inputLines around.input) around.now = (.ok (),
        ((Reading.opening c around.now).after
          ((Text.lines input.toList).map fun l => (.ofList l, around.now))).play) ∧
      ((Request.play story assets directory true).run volume around).conclusion = .success) := by
  constructor
  · intro τ _ sc assets palette store c now lines h
    obtain ⟨hstart, -, hfollows⟩ := Controller.follows_of_hydrate h now
    exact ⟨hstart, (hfollows.follows_after lines).agrees⟩
  · intro σ _ volume volume' around story assets directory input c hsetUp hinput
    have hplay := Player.play_script_eq hsetUp around.now input
    rw [← hinput] at hplay
    refine ⟨hplay, ?_⟩
    simp only [Request.run, playStory, hsetUp, hplay, Conclusion.ofResult]

end Command

/-- A volume with a story of one ending, which is started and started again. -/
def FileTree.brief : FileTree :=
  FileTree.empty.set ["story.json", "home"] (.text ("\x7b\"startnode\": 1, \"passages\": [" ++
    "\x7b\"pid\": 1, \"name\": \"Home\", \"tags\": [\"Good-End\"]\x7d]\x7d"))

theorem Command.terminal_agrees_briefly :
    let now : Instant := .newYear
    let terminal : Terminal := { assets := .empty, palette := .plain }
    let c := Controller.brief terminal MemoryStore.empty
    let around : Surroundings := ⟨"s\nr\n".toUTF8.data.toList, .plain, now⟩
    Controller.hydrate .brief terminal MemoryStore.empty = .ok c ∧ (c.start now).1 = .ok () ∧
      ((Reading.opening c now).after [("s", now), ("1", now), ("R", now)]).play.Agrees ∧
      (Player.setUp FileTree.brief .plain "story.json" none "saves").1.isOk = true ∧
      ((Request.play "story.json" none "saves" true).run FileTree.brief around).conclusion = .success := by
  intro now terminal c around
  have hhydrate : Controller.hydrate .brief terminal MemoryStore.empty = .ok c := rfl
  have hagree := terminal_agrees.1 .brief .empty .plain MemoryStore.empty c now
    [("s", now), ("1", now), ("R", now)] hhydrate
  have hisOk : (Player.setUp FileTree.brief .plain "story.json" none "saves").1.isOk = true := by
    decide +kernel
  refine ⟨hhydrate, hagree.1, hagree.2, hisOk, ?_⟩
  rcases hsetUp : Player.setUp FileTree.brief .plain "story.json" none "saves" with ⟨result, volume'⟩
  rw [hsetUp] at hisOk
  cases result with
  | error e => cases hisOk
  | ok player =>
    exact (terminal_agrees.2 FileTree.brief volume' around "story.json" none "saves" "s\nr\n" player
      hsetUp rfl).2

end VisualNovel
