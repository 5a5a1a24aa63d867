/-
  VisualNovel.Ledger.Record

  What is known about one ending: whether it was reached, by which outcome, and
  when for the first time. `merge` joins two such records; `default_merge` and
  `merge_default` say that a record without knowledge changes nothing.
-/

import VisualNovel.Time.Instant

namespace VisualNovel

open Time (Instant)

/-- What is known about one ending. -/
structure EndingRecord where
  reached : Bool := false
  /-- The tag of the outcome that led to it. -/
  outcome : Option String := none
  firstReachedAt : Option Instant := none
  deriving DecidableEq

namespace EndingRecord

instance : Inhabited EndingRecord := ⟨{}⟩

/-- The earlier of two instants, as far as they are known. -/
def earliest : Option Instant → Option Instant → Option Instant
  | some s, some t => some (s.earlier t)
  | some s, none => some s
  | none, t => t

@[simp] theorem earliest_none_left (t : Option Instant) : earliest none t = t := rfl

@[simp] theorem earliest_none_right (t : Option Instant) : earliest t none = t := by
  cases t <;> rfl

/-- Joins two records: a reached flag stays on, the first outcome and the earliest instant stay. -/
def merge (r other : EndingRecord) : EndingRecord where
  reached := r.reached || other.reached
  outcome := r.outcome.or other.outcome
  firstReachedAt := earliest r.firstReachedAt other.firstReachedAt

@[simp] theorem default_merge (r : EndingRecord) : merge {} r = r := by
  simp [merge]

@[simp] theorem merge_default (r : EndingRecord) : r.merge {} = r := by
  simp [merge]

/-- The record once its ending is reached at an instant; what was known before stays. -/
def mark (r : EndingRecord) (outcome : Option String) (now : Instant) : EndingRecord where
  reached := true
  outcome := r.outcome.or outcome
  firstReachedAt := if r.reached then r.firstReachedAt else some now

end EndingRecord

end VisualNovel
