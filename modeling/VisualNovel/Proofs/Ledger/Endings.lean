/-
  VisualNovel.Proofs.Ledger.Endings

  What a ledger says about the endings of its story. Every ending has a record, so
  the records of the endings are as many as the endings, and the ledger's list and
  its two numbers agree (`Seeded.countsEndings`). A ledger that was hydrated for a
  story goes on like that, whatever is marked and loaded
  (`countsEndings_of_hydrate`).
-/

import VisualNovel.Proofs.Ledger.Count
import VisualNovel.Proofs.Ledger.FirstReached
import VisualNovel.Proofs.Text.Bytes
import VisualNovel.Store.Memory

namespace VisualNovel

open Time (Instant)

/-- A story with two endings of one name, one behind each start. -/
def Story.twins : Story where
  passages := [
    { id := 1, name := "Cellar", text := "Down you go.", tags := .ofNames ["BAD-END"], links := [] },
    { id := 2, name := "Cellar", text := "A hidden treasure.", tags := .ofNames ["Good-End"], links := [] }]
  start := 1
  altStart := 2
  isDense := by decide
  start_isId := by decide
  altStart_isId := by decide
  link_isId := by decide

namespace Ledger

variable {story : Story} {l : Ledger}

/-! ## The list of endings -/

theorem mem_storyEntries {name : String} {r : EndingRecord} :
    (name, r) ∈ l.storyEntries ↔ l.story.contains name = true ∧ l.get? name = some r := by
  rw [storyEntries, List.mem_filter, get?, NameMap.get?_eq_some_iff, and_comm]

theorem mem_map_storyEntries {name : String} :
    name ∈ l.storyEntries.map (·.1) ↔ l.story.contains name = true := by
  constructor
  · intro h
    obtain ⟨⟨_, r⟩, he, rfl⟩ := List.mem_map.1 h
    exact (mem_storyEntries.1 he).1
  · intro h
    obtain ⟨r, hr⟩ := Option.isSome_iff_exists.1 (l.contains_of_story name h)
    exact List.mem_map.2 ⟨(name, r), mem_storyEntries.2 ⟨h, hr⟩, rfl⟩

theorem ascending_storyEntries (l : Ledger) : l.storyEntries.Pairwise fun a b => a.1 < b.1 :=
  l.entries.ascending.filter _

/-- The list of endings knows only the records of these names. -/
theorem storyEntries_congr {m : Ledger} (hstory : m.story = l.story)
    (h : ∀ name, l.story.contains name = true → m.get? name = l.get? name) :
    m.storyEntries = l.storyEntries := by
  apply NameMap.eq_of_ascending m.ascending_storyEntries l.ascending_storyEntries
  rintro ⟨name, r⟩
  rw [mem_storyEntries, mem_storyEntries, hstory]
  apply and_congr_right
  intro hname
  rw [h name hname]

/-! ## Endings of the story -/

/-- What a ledger lists and counts are the endings of a story. -/
structure CountsEndings (story : Story) (l : Ledger) : Prop where
  /-- Every ending has a record. -/
  recorded : ∀ name, story.HasEnding name → ∃ r, l.get? name = some r
  /-- The endings are listed, and nothing else is. -/
  listed_iff : ∀ name, name ∈ l.storyEntries.map (·.1) ↔ story.HasEnding name
  /-- What is listed with a name is its record. -/
  record_eq : ∀ name r, (name, r) ∈ l.storyEntries → l.get? name = some r
  /-- Each name is listed once, in the order of the bytes. -/
  ascending : (l.storyEntries.map (·.1)).Pairwise fun a b => a.toUTF8.data.toList < b.toUTF8.data.toList
  total_eq : l.total = story.endingNames.card
  reachedCount_eq : l.reachedCount = (story.endingNames.filter fun name => l.isReached name = true).card
  reachedCount_le : l.reachedCount ≤ l.total
  /-- All is reached when each ending is. -/
  complete_iff : l.reachedCount = l.total ↔ ∀ name, story.HasEnding name → l.isReached name = true
  /-- A ledger of the same story that differs in the records of other names says the same. -/
  unaffected : ∀ m : Ledger, m.story = l.story →
    (∀ name, story.HasEnding name → m.get? name = l.get? name) →
    m.storyEntries = l.storyEntries ∧ m.total = l.total ∧ m.reachedCount = l.reachedCount

theorem Seeded.complete_iff (h : Seeded story l) :
    l.reachedCount = l.total ↔ ∀ name, story.HasEnding name → l.isReached name = true := by
  rw [h.reachedCount_eq, h.total_eq, Finset.card_filter_eq_iff]
  simp only [Story.mem_endingNames]

theorem Seeded.countsEndings (h : Seeded story l) : CountsEndings story l where
  recorded name hname := Option.isSome_iff_exists.1 (l.contains_of_story name (h.contains_story_iff.2 hname))
  listed_iff name := by rw [mem_map_storyEntries, h.contains_story_iff]
  record_eq name r he := (mem_storyEntries.1 he).2
  ascending := List.pairwise_map.2 (l.ascending_storyEntries.imp Text.toUTF8_lt_toUTF8)
  total_eq := h.total_eq
  reachedCount_eq := h.reachedCount_eq
  reachedCount_le := l.reachedCount_le_total
  complete_iff := h.complete_iff
  unaffected m hstory hsame := by
    have hlist : m.storyEntries = l.storyEntries :=
      storyEntries_congr hstory fun name hname => hsame name (h.contains_story_iff.1 hname)
    exact ⟨hlist, congrArg NameMap.size hstory, by rw [reachedCount, hlist, reachedCount]⟩

/-! ## Runs -/

theorem Seeded.update (h : Seeded story l) (u : Update) (now : Instant) : Seeded story (l.update u now) := by
  cases u with
  | mark name outcome => exact h.markReached name outcome now
  | load saved => exact h.load saved

theorem Seeded.updateAll (h : Seeded story l) (us : List (Update × Instant)) :
    Seeded story (l.updateAll us) := by
  induction us generalizing l with
  | nil => exact h
  | cons u us ih => exact ih (h.update u.1 u.2)

/-- **A hydrated ledger counts the endings of its story**, whatever is marked and loaded. -/
theorem countsEndings_of_hydrate {τ : Type} [LedgerStore τ] {store : τ} {key : String}
    (h : hydrate story store key = .ok l) (us : List (Update × Instant)) :
    CountsEndings story (l.updateAll us) :=
  ((seeded_of_hydrate h).updateAll us).countsEndings

/-- A save of another story is taken in; its ending is recorded but not counted. -/
theorem countsEndings_twins :
    let text := "\x7b\"Attic\": true\x7d"
    let store : MemoryStore := ⟨.ofList [("save", text)]⟩
    let us : List (Update × Instant) := [(.mark "Cellar" (some "BAD-END"), .newYear)]
    ∃ l, hydrate Story.twins store "save" = .ok l ∧ l.entries.names = ["Attic", "Cellar"] ∧
      (l.updateAll us).reachedCount = 1 ∧ CountsEndings Story.twins (l.updateAll us) := by
  intro text store us
  have hread : LedgerStore.read store "save" = .ok (some text) := by decide +kernel
  have hdecode : Save.decode text = .ok (.ofList [("Attic", .ofFlag true)]) :=
    Save.decode_of_toOption (by decide +kernel)
  have hhydrate : hydrate Story.twins store "save" =
      .ok ((ofStory .twins).load (.ofList [("Attic", .ofFlag true)])) := by
    rw [hydrate, hread]
    simp only [hdecode]
  exact ⟨_, hhydrate, by decide +kernel, by decide +kernel, countsEndings_of_hydrate hhydrate us⟩

end Ledger

end VisualNovel
