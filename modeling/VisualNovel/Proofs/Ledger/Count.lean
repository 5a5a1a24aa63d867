/-
  VisualNovel.Proofs.Ledger.Count

  What the numbers of a ledger count. Endings are known by their names, so a story
  has as many of them as its ending passages have names (`Story.endingNames`). A
  ledger that has taken in its story counts these and no others
  (`Seeded.total_eq`, `Seeded.reachedCount_eq`), whatever else it has records of.
  What is counted as reached is part of the total (`reachedCount_le_total`).
-/

import Mathlib.Data.Finset.Card
import VisualNovel.Proofs.Ledger.Hydration
import VisualNovel.Proofs.Session.History

namespace VisualNovel

open Time (Instant)

/-- A map has each name once. -/
theorem NameMap.nodup_names {α : Type} (m : NameMap α) : m.names.Nodup := by
  rw [names, List.Nodup, List.pairwise_map]
  apply m.ascending.imp
  intro a b hlt heq
  exact String.lt_irrefl _ (heq ▸ hlt)

namespace Story

/-- The names of the endings. Passages that end the story under one name are one ending. -/
def endingNames (s : Story) : Finset String :=
  (s.endings.map (·.name)).toFinset

theorem mem_endingNames {s : Story} {name : String} : name ∈ s.endingNames ↔ s.HasEnding name := by
  rw [endingNames, List.mem_toFinset, List.mem_map]
  exact Iff.rfl

/-- How many endings of a story were reached once a passage of that name is, too. -/
def reachedWith (s : Story) (l : Ledger) (name : String) : Nat :=
  (s.endingNames.filter fun other => other = name ∨ l.isReached other = true).card

end Story

namespace Ledger

variable {story : Story} {l : Ledger}

/-- The seed has a record for each ending of the story. -/
theorem contains_seed_iff {name : String} : (seed story).contains name = true ↔ story.HasEnding name := by
  rw [NameMap.contains, Option.isSome_iff_exists]
  constructor
  · rintro ⟨r, hr⟩
    exact (get?_seed hr).1
  · rintro ⟨p, hp, rfl⟩
    apply Option.ne_none_iff_exists'.1
    rw [seed, NameMap.get?_ofList]
    intro hnone
    have hmem := List.mem_map_of_mem (f := fun p : Passage =>
      (p.name, ({ outcome := p.outcome.map (·.tag) } : EndingRecord))) hp
    exact NameMap.find?_eq_none_iff.1 hnone _ (List.mem_reverse.2 hmem) rfl

theorem Seeded.contains_story_iff (h : Seeded story l) {name : String} :
    l.story.contains name = true ↔ story.HasEnding name := by
  rw [h.story_eq, ← contains_seed_iff, ofStory, NameMap.contains, NameMap.get?_map, Option.isSome_map]
  rfl

/-- The total counts the endings of the story. -/
theorem Seeded.total_eq (h : Seeded story l) : l.total = story.endingNames.card := by
  have hnames : l.story.names.toFinset = story.endingNames := by
    ext name
    rw [List.mem_toFinset, NameMap.mem_names_iff, h.contains_story_iff, Story.mem_endingNames]
  rw [← hnames, List.toFinset_card_of_nodup l.story.nodup_names, NameMap.names, List.length_map]
  rfl

/-- The names of the story's endings that were reached, in order. -/
def reachedNames (l : Ledger) : List String :=
  (l.storyEntries.filter (·.2.reached)).map (·.1)

theorem mem_reachedNames {name : String} :
    name ∈ l.reachedNames ↔ l.story.contains name = true ∧ l.isReached name = true := by
  simp only [reachedNames, storyEntries, List.mem_map, List.mem_filter, isReached, Option.any_eq_true,
    get?, NameMap.get?_eq_some_iff]
  constructor
  · rintro ⟨⟨_, r⟩, ⟨⟨hmem, hstory⟩, hreached⟩, rfl⟩
    exact ⟨hstory, r, hmem, hreached⟩
  · rintro ⟨hstory, r, hmem, hreached⟩
    exact ⟨(name, r), ⟨⟨hmem, hstory⟩, hreached⟩, rfl⟩

theorem nodup_reachedNames (l : Ledger) : l.reachedNames.Nodup := by
  apply List.Nodup.sublist _ l.entries.nodup_names
  exact (List.filter_sublist.trans List.filter_sublist).map _

theorem length_reachedNames (l : Ledger) : l.reachedNames.length = l.reachedCount :=
  List.length_map ..

theorem reachedCount_le_total (l : Ledger) : l.reachedCount ≤ l.total := by
  have hsubset : l.reachedNames ⊆ l.story.names := fun _ h =>
    NameMap.mem_names_iff.2 (mem_reachedNames.1 h).1
  have hle := (List.subperm_of_subset l.nodup_reachedNames hsubset).length_le
  rwa [length_reachedNames, NameMap.names, List.length_map] at hle

/-- Where more endings of the same story are reached, no fewer are counted. -/
theorem reachedCount_le_of_isReached {m : Ledger} (hstory : m.story = l.story)
    (h : ∀ name, l.isReached name = true → m.isReached name = true) : l.reachedCount ≤ m.reachedCount := by
  have hsubset : l.reachedNames ⊆ m.reachedNames := by
    intro name hname
    obtain ⟨hmem, hreached⟩ := mem_reachedNames.1 hname
    exact mem_reachedNames.2 ⟨hstory ▸ hmem, h name hreached⟩
  have hle := (List.subperm_of_subset l.nodup_reachedNames hsubset).length_le
  rwa [length_reachedNames, length_reachedNames] at hle

/-- The count of what was reached counts endings of the story only. -/
theorem Seeded.reachedCount_eq (h : Seeded story l) :
    l.reachedCount = (story.endingNames.filter fun name => l.isReached name = true).card := by
  have hnames : l.reachedNames.toFinset = story.endingNames.filter fun name => l.isReached name = true := by
    ext name
    rw [List.mem_toFinset, mem_reachedNames, h.contains_story_iff, Finset.mem_filter, Story.mem_endingNames]
  rw [← hnames, List.toFinset_card_of_nodup l.nodup_reachedNames, length_reachedNames]

theorem Seeded.reachedCount_markReached (h : Seeded story l) (name : String) (outcome : Option String)
    (now : Instant) : (l.markReached name outcome now).reachedCount = story.reachedWith l name := by
  rw [(h.markReached name outcome now).reachedCount_eq, Story.reachedWith]
  congr 1
  apply Finset.filter_congr
  intro other _
  exact isReached_markReached ..

end Ledger

end VisualNovel
