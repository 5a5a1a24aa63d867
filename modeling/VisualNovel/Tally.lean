/-
  VisualNovel.Tally

  How often each outcome was met in one session. Counts are 32-bit words; menus
  are not counted.
-/

import VisualNovel.Story.Outcome

namespace VisualNovel

/-- Counts by outcome tag. -/
structure Tally where
  counts : NameMap UInt32
  deriving DecidableEq

namespace Tally

/-- No outcome met yet. -/
def empty : Tally :=
  ⟨.empty⟩

instance : Inhabited Tally := ⟨empty⟩

/-- Counts one more meeting of an outcome, unless it is a menu. -/
def record (t : Tally) (o : Outcome) : Tally :=
  if o.isTallied then ⟨t.counts.alter o.tag fun n => n.getD 0 + 1⟩ else t

/-- The count of a tag. -/
def count (t : Tally) (tag : String) : UInt32 :=
  (t.counts.get? tag).getD 0

/-- The tags that were counted with their counts, in ascending order. -/
def toList (t : Tally) : List (String × UInt32) :=
  t.counts.entries

/-- Clears all counts. -/
def reset (t : Tally) : Tally :=
  { t with counts := .empty }

/-- The sum of all counts. -/
def total (t : Tally) : UInt32 :=
  t.counts.entries.foldl (fun n e => n + e.2) 0

end Tally

end VisualNovel
