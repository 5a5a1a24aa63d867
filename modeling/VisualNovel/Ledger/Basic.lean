/-
  VisualNovel.Ledger.Basic

  The endings ledger: which endings a reader has ever reached. It starts with an
  unreached record for each ending of the story and takes in what was saved.
  Records for names that the story no longer has are kept, but they are neither
  counted nor listed among the story's endings.
-/

import VisualNovel.Ledger.Save
import VisualNovel.Story.Basic

namespace VisualNovel

open Time (Instant)

/-- The endings of a story with what is known about them, and records of other names. -/
structure Ledger where
  entries : Save
  /-- The names of the story's endings. -/
  story : NameSet
  /-- Each ending of the story has a record. -/
  contains_of_story : ∀ name, story.contains name = true → entries.contains name = true
  deriving DecidableEq

namespace Ledger

/-- The ledger that knows of no ending. -/
def empty : Ledger :=
  ⟨.empty, .empty, fun _ h => by simp [NameMap.contains] at h⟩

instance : Inhabited Ledger := ⟨empty⟩

/-- A record for each ending of a story, none of them reached. -/
def seed (s : Story) : Save :=
  .ofList (s.endings.map fun p => (p.name, { outcome := p.outcome.map (·.tag) }))

/-- The ledger of a story before any ending is reached. -/
def ofStory (s : Story) : Ledger where
  entries := seed s
  story := (seed s).map fun _ => ()
  contains_of_story name h := by simpa [NameMap.contains] using h

/-- Takes in a save. -/
def load (l : Ledger) (saved : Save) : Ledger where
  entries := l.entries.merge saved
  story := l.story
  contains_of_story name h := by simp [Save.contains_merge, l.contains_of_story name h]

/-- Notes that the ending of a name is reached now; a name without record gets one. -/
def markReached (l : Ledger) (name : String) (outcome : Option String) (now : Instant) : Ledger where
  entries := l.entries.alter name fun r => (r.getD {}).mark outcome now
  story := l.story
  -- A record is added or replaced, none is taken away.
  contains_of_story other h := by
    have := l.contains_of_story other h
    simp only [NameMap.contains, NameMap.get?_alter] at this ⊢
    split <;> simp_all

/-- The record of a name. -/
def get? (l : Ledger) (name : String) : Option EndingRecord :=
  l.entries.get? name

/-- Whether the ending of a name was ever reached. -/
def isReached (l : Ledger) (name : String) : Bool :=
  (l.get? name).any (·.reached)

/-- The story's endings with their records, in order of names. -/
def storyEntries (l : Ledger) : List (String × EndingRecord) :=
  l.entries.entries.filter fun e => l.story.contains e.1

/-- Number of the story's endings that were reached. -/
def reachedCount (l : Ledger) : Nat :=
  (l.storyEntries.filter (·.2.reached)).length

/-- Number of the story's endings. -/
def total (l : Ledger) : Nat :=
  l.story.size

/-! ## One name at a time -/

theorem get?_markReached (l : Ledger) (name other : String) (outcome : Option String) (now : Instant) :
    (l.markReached name outcome now).get? other =
      if other = name then some (((l.get? name).getD {}).mark outcome now) else l.get? other :=
  NameMap.get?_alter ..

theorem get?_load (l : Ledger) (saved : Save) (name : String) :
    (l.load saved).get? name =
      match saved.get? name with
      | none => l.get? name
      | some r => some (((l.get? name).getD {}).merge r) :=
  Save.get?_merge ..

end Ledger

end VisualNovel
