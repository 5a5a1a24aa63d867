/-
  VisualNovel.Proofs.Scene.Progress

  Many plays that share a store, each of a story of its own. Nothing that is
  saved gets lost by a play, however it goes: a write that fails leaves the
  former save, and one that succeeds stores a ledger that began with that save.
-/

import VisualNovel.Proofs.Ledger.Kept
import VisualNovel.Proofs.Scene.Operations
import VisualNovel.Proofs.Store.Durable
import VisualNovel.Stage.Recorder

namespace VisualNovel

open LedgerStore (Keeps)
open Time (Instant)

/-! ## Plays -/

/-- A play from its beginning to its end: the scenario, a presentation, and what is asked. -/
structure Play where
  {Screen : Type}
  [presenter : Presenter Screen]
  scenario : Scenario
  screen : Screen
  operations : List (Operation × Instant)

attribute [instance] Play.presenter

/-- The store holds a save under a key, in a form that can be read. -/
def LedgerStore.Holds {τ : Type} [LedgerStore τ] (s : τ) (key : String) (saved : Save) : Prop :=
  ∃ text, LedgerStore.read s key = .ok (some text) ∧ Save.decode text = .ok saved

namespace Play

variable {τ : Type} [LedgerStore τ] {key : String} {s : τ}

def hydrate (p : Play) (s : τ) : Except PlayError (Controller p.Screen τ) :=
  Controller.hydrate p.scenario p.screen s

/-- The store after a play. Without a ledger there is no play. -/
def run (p : Play) (s : τ) : τ :=
  match p.hydrate s with
  | .ok c => (c.after p.operations).store
  | .error _ => s

/-- The store after some plays, one after the other. -/
def runAll (plays : List Play) (s : τ) : τ :=
  plays.foldl (fun s p => p.run s) s

theorem runAll_append (ps qs : List Play) (s : τ) : runAll (ps ++ qs) s = runAll qs (runAll ps s) :=
  List.foldl_append

/-! ## One play -/

theorem run_of_error {p : Play} {e : PlayError} (h : p.hydrate s = .error e) : p.run s = s := by
  rw [run, h]

/-- A play leaves the store in order. -/
theorem keeps_run {p : Play} (hkey : p.scenario.config.ledgerKey = key) (h : Keeps key s) :
    Keeps key (p.run s) := by
  cases hc : p.hydrate s with
  | error e =>
    rw [run_of_error hc]
    exact h
  | ok c =>
    obtain ⟨hsc, -, hstore, -, -⟩ := Controller.eq_of_hydrate hc
    rw [run, hc]
    apply Controller.after_of_records (P := fun _ t => Keeps key t) _ hsc
    · rw [hstore]
      exact h
    · intro l t p' o now ht _ _
      rw [hkey]
      exact ht.write _

/-- What a ledger and a store have kept of a save. -/
structure HasKept (story : Story) (key : String) (saved : Save) (l : Ledger) (s : τ) : Prop where
  keeps : Keeps key s
  ledger : saved.Kept story.HasEnding l.entries
  store : ∃ saved', LedgerStore.Holds s key saved' ∧ saved.Kept story.HasEnding saved'

/-- An ending of the story is noted, and stored if the store can do so. -/
theorem HasKept.markReached {story : Story} {saved : Save} {l : Ledger} (h : HasKept story key saved l s)
    {name : String} (hname : story.HasEnding name) (outcome : Option String) (now : Instant) :
    HasKept story key saved (l.markReached name outcome now)
      ((l.markReached name outcome now).persist s key).2 := by
  have hledger : saved.Kept story.HasEnding (l.markReached name outcome now).entries :=
    h.ledger.trans (l.kept_markReached hname outcome now)
  refine ⟨h.keeps.write _, hledger, ?_⟩
  rcases h.keeps.read_write (l.markReached name outcome now).entries.encode with hread | hread
  · exact ⟨_, ⟨_, hread, Save.decode_encode _⟩, hledger⟩
  · -- The write failed, so what was stored before has to do.
    obtain ⟨saved', ⟨text, htext, hdecode⟩, hkept⟩ := h.store
    exact ⟨saved', ⟨text, hread.trans htext, hdecode⟩, hkept⟩

/-- What is saved before a play is kept by it. -/
theorem exists_kept_run {p : Play} (hkey : p.scenario.config.ledgerKey = key) (h : Keeps key s)
    {saved : Save} (hsaved : LedgerStore.Holds s key saved) :
    ∃ saved', LedgerStore.Holds (p.run s) key saved' ∧ saved.Kept p.scenario.story.HasEnding saved' := by
  cases hc : p.hydrate s with
  | error e =>
    rw [run_of_error hc]
    exact ⟨saved, hsaved, .refl saved⟩
  | ok c =>
    obtain ⟨hsc, -, hstore, -, hhydrate⟩ := Controller.eq_of_hydrate hc
    -- The save was there and could be read, so the play began with it.
    have hledger : c.ledger = (Ledger.ofStory p.scenario.story).load saved := by
      obtain ⟨text, htext, hdecode⟩ := hsaved
      rw [hkey, Ledger.hydrate, htext] at hhydrate
      simp only [hdecode] at hhydrate
      exact (Except.ok.inj hhydrate).symm
    have hbegin : HasKept p.scenario.story key saved c.ledger c.store := by
      rw [hledger, hstore]
      exact ⟨h, Ledger.kept_load _ saved, saved, hsaved, .refl saved⟩
    have hend : HasKept p.scenario.story key saved (c.after p.operations).ledger
        (c.after p.operations).store := by
      apply Controller.after_of_records _ hsc hbegin
      intro l t q o now ht hq _
      rw [hkey]
      exact ht.markReached ⟨q, hq, rfl⟩ (some o.tag) now
    rw [run, hc]
    exact hend.store

/-! ## Any number of plays -/

theorem keeps_runAll {plays : List Play} (hkeys : ∀ p ∈ plays, p.scenario.config.ledgerKey = key)
    (h : Keeps key s) : Keeps key (runAll plays s) := by
  induction plays generalizing s with
  | nil => exact h
  | cons p plays ih =>
    rw [List.forall_mem_cons] at hkeys
    exact ih hkeys.2 (keeps_run hkeys.1 h)

/-- What is saved at some time is kept by all plays from then on. -/
theorem exists_kept_runAll {plays : List Play}
    (hkeys : ∀ p ∈ plays, p.scenario.config.ledgerKey = key) (h : Keeps key s) {saved : Save}
    (hsaved : LedgerStore.Holds s key saved) :
    ∃ saved', LedgerStore.Holds (runAll plays s) key saved' ∧
      saved.Kept (fun name => ∃ p ∈ plays, p.scenario.story.HasEnding name) saved' := by
  induction plays generalizing s saved with
  | nil => exact ⟨saved, hsaved, .refl saved⟩
  | cons p plays ih =>
    rw [List.forall_mem_cons] at hkeys
    -- What the first play may change, and what the others may, all of them together may.
    obtain ⟨mid, hmid, hkept⟩ := exists_kept_run hkeys.1 h hsaved
    obtain ⟨saved', hsaved', hkept'⟩ := ih hkeys.2 (keeps_run hkeys.1 h) hmid
    have hfirst : saved.Kept (fun name => ∃ q ∈ p :: plays, q.scenario.story.HasEnding name) mid := by
      apply hkept.mono
      intro name hname
      exact ⟨p, List.mem_cons_self, hname⟩
    have hrest : mid.Kept (fun name => ∃ q ∈ p :: plays, q.scenario.story.HasEnding name) saved' := by
      apply hkept'.mono
      rintro name ⟨q, hq, hname⟩
      exact ⟨q, List.mem_cons_of_mem p hq, hname⟩
    exact ⟨saved', hsaved', hfirst.trans hrest⟩

/--
**Progress is kept.** Of some plays that share a store and a key, take any one. What is saved before
it is still saved after it, with at most the records of its own story's endings changed; and so it
is after all the plays that follow. A play that cannot be hydrated leaves the store as it was.
-/
theorem progress_kept (h : Keeps key s) {earlier later : List Play} {play : Play}
    (hkeys : ∀ p ∈ earlier ++ play :: later, p.scenario.config.ledgerKey = key) :
    (∀ saved, LedgerStore.Holds (runAll earlier s) key saved →
      (∃ saved', LedgerStore.Holds (play.run (runAll earlier s)) key saved' ∧
        saved.Kept play.scenario.story.HasEnding saved') ∧
      ∃ saved', LedgerStore.Holds (runAll (earlier ++ play :: later) s) key saved' ∧
        saved.Kept (fun name => ∃ p ∈ play :: later, p.scenario.story.HasEnding name) saved') ∧
    ∀ e, play.hydrate (runAll earlier s) = .error e → play.run (runAll earlier s) = runAll earlier s := by
  have hearlier : ∀ p ∈ earlier, p.scenario.config.ledgerKey = key := by
    intro p hp
    exact hkeys p (List.mem_append_left _ hp)
  have hlater : ∀ p ∈ play :: later, p.scenario.config.ledgerKey = key := by
    intro p hp
    exact hkeys p (List.mem_append_right _ hp)
  have hbefore := keeps_runAll hearlier h
  constructor
  · intro saved hsaved
    rw [runAll_append]
    constructor
    · exact exists_kept_run (hlater play List.mem_cons_self) hbefore hsaved
    · exact exists_kept_runAll hlater hbefore hsaved
  · intro e he
    exact run_of_error he

/-- A play of the brief story. -/
def brief : Play where
  scenario := .brief
  screen := Recorder.refusing .gameOver
  operations := Operation.brief

/-- A save with an ending that the brief story does not have. -/
def formerSave : Save :=
  .ofList [("Attic", { reached := true, outcome := some "BAD-END" }), ("Home", {})]

/-- A store with that save, which fails at its first write. -/
def failingStore : FaultyStore MemoryStore where
  inner := ⟨.ofList [("endings", formerSave.encode)]⟩
  failsRead := false
  failsWrite n := n == 0

/-- The first write fails, and yet no former ending is lost. -/
theorem progress_kept_over_failure :
    (∃ saved', LedgerStore.Holds (brief.run failingStore) "endings" saved' ∧
      formerSave.Kept Story.brief.HasEnding saved') ∧
    ∃ saved', LedgerStore.Holds (runAll [brief, brief] failingStore) "endings" saved' ∧
      formerSave.Kept (fun name => ∃ p ∈ [brief, brief], p.scenario.story.HasEnding name) saved' := by
  have hkeeps : Keeps "endings" failingStore := FaultyStore.keeps rfl (MemoryStore.keeps _ "endings")
  have hkeys : ∀ p ∈ [] ++ brief :: [brief], p.scenario.config.ledgerKey = "endings" := by simp [brief]; rfl
  have hsaved : LedgerStore.Holds failingStore "endings" formerSave :=
    ⟨formerSave.encode, rfl, Save.decode_encode formerSave⟩
  exact (progress_kept hkeeps hkeys).1 formerSave hsaved

end Play

end VisualNovel
