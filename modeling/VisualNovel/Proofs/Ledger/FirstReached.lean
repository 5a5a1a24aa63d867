/-
  VisualNovel.Proofs.Ledger.FirstReached

  When an ending was first reached, over any marks and loads. A date that a ledger
  has is never lost. It never moves to a later instant either, provided that the
  record is marked as reached: a date may be saved without the flag, and the next
  mark of such a record dates it anew (`firstReachedAt_le_iff`).
-/

import VisualNovel.Ledger.Basic
import VisualNovel.Proofs.Ledger.SaveCodec

namespace VisualNovel

open Time (Instant)

/-! ## The last instant -/

namespace Time.Instant

/-- The last instant that can be told. -/
def last : Instant :=
  ⟨⟨lastYear, 12, 31, by decide⟩, 86399, 1999999999, by decide⟩

theorem rank_le_last (t : Instant) : t.rank ≤ last.rank := by
  obtain ⟨⟨year, month, day, hdate⟩, second, nano, htime⟩ := t
  have hdays := daysInMonth_le year month
  obtain ⟨-, hyear, -, hmonth, -, hday⟩ := hdate
  obtain ⟨hsecond, hnano, -⟩ := htime
  simp only [lastYear] at hyear
  simp only [rank, last, lastYear]
  omega

end Time.Instant

/-! ## Records -/

namespace EndingRecord

/-- The record has a date. -/
def Dated (r : EndingRecord) : Prop :=
  ∃ t, r.firstReachedAt = some t

/-- The ending was reached, at the given instant or before. -/
def ReachedBy (t : Instant) (r : EndingRecord) : Prop :=
  r.reached = true ∧ ∃ t', r.firstReachedAt = some t' ∧ t'.rank ≤ t.rank

/-- The earlier of two instants is known if one of them is, and it is no later than that one. -/
theorem exists_earliest_le (t : Instant) (other : Option Instant) :
    ∃ t', earliest (some t) other = some t' ∧ t'.rank ≤ t.rank := by
  cases other with
  | none => exact ⟨t, rfl, Int.le_refl _⟩
  | some s =>
    refine ⟨t.earlier s, rfl, ?_⟩
    rw [Instant.rank_earlier]
    exact Int.min_le_left ..

variable {t : Instant} {r : EndingRecord}

theorem Dated.mark (h : r.Dated) (outcome : Option String) (now : Instant) :
    (r.mark outcome now).Dated := by
  unfold EndingRecord.mark Dated
  split
  · exact h
  · exact ⟨now, rfl⟩

theorem Dated.merge (h : r.Dated) (other : EndingRecord) : (r.merge other).Dated := by
  obtain ⟨t, ht⟩ := h
  obtain ⟨t', ht', -⟩ := exists_earliest_le t other.firstReachedAt
  rw [← ht] at ht'
  exact ⟨t', ht'⟩

/-- What was reached keeps its date. -/
theorem ReachedBy.mark (h : r.ReachedBy t) (outcome : Option String) (now : Instant) :
    (r.mark outcome now).ReachedBy t := by
  obtain ⟨hreached, t', ht', hle⟩ := h
  refine ⟨rfl, t', ?_, hle⟩
  rw [EndingRecord.mark, if_pos hreached, ht']

/-- Of two dates the earlier one stays. -/
theorem ReachedBy.merge (h : r.ReachedBy t) (other : EndingRecord) : (r.merge other).ReachedBy t := by
  obtain ⟨hreached, t₁, ht₁, hle₁⟩ := h
  obtain ⟨t₂, ht₂, hle₂⟩ := exists_earliest_le t₁ other.firstReachedAt
  rw [← ht₁] at ht₂
  exact ⟨by rw [EndingRecord.merge, hreached, Bool.true_or], t₂, ht₂, Int.le_trans hle₂ hle₁⟩

end EndingRecord

/-! ## Updates -/

namespace Ledger

/-- What changes a ledger. -/
inductive Update
  /-- An ending is reached. -/
  | mark (name : String) (outcome : Option String)
  /-- A save is taken in. -/
  | load (saved : Save)

/-- The ledger after a change at some instant. -/
def update (l : Ledger) (u : Update) (now : Instant) : Ledger :=
  match u with
  | .mark name outcome => l.markReached name outcome now
  | .load saved => l.load saved

/-- The ledger after some changes. -/
def updateAll (l : Ledger) (us : List (Update × Instant)) : Ledger :=
  us.foldl (fun l u => l.update u.1 u.2) l

/-- When the ending of a name was first reached, as far as the ledger knows. -/
def firstReachedAt (l : Ledger) (name : String) : Option Instant :=
  (l.get? name).bind (·.firstReachedAt)

/-- The clock never goes back and is never behind a date that the ledger has. -/
def Timely (l : Ledger) : List (Update × Instant) → Prop
  | [] => True
  | (u, now) :: us =>
    (∀ name t, l.firstReachedAt name = some t → t.rank ≤ now.rank) ∧
      (∀ later ∈ us, now.rank ≤ later.2.rank) ∧ (l.update u now).Timely us

variable {l : Ledger} {name : String} {r : EndingRecord} {t : Instant}

theorem firstReachedAt_eq_some : l.firstReachedAt name = some t ↔
    ∃ r, l.get? name = some r ∧ r.firstReachedAt = some t :=
  Option.bind_eq_some_iff

/-- A change leaves the record of a name, marks it, or joins another one into it. -/
theorem update_cases (h : l.get? name = some r) (u : Update) (now : Instant) :
    ∃ r', (l.update u now).get? name = some r' ∧
      (r' = r ∨ (∃ outcome, r' = r.mark outcome now) ∨ ∃ other, r' = r.merge other) := by
  cases u with
  | mark marked outcome =>
    rw [update, get?_markReached]
    by_cases hname : name = marked
    · subst hname
      rw [if_pos rfl, h]
      exact ⟨_, rfl, .inr (.inl ⟨outcome, rfl⟩)⟩
    · rw [if_neg hname]
      exact ⟨r, h, .inl rfl⟩
  | load saved =>
    rw [update, get?_load, h]
    cases saved.get? name with
    | none => exact ⟨r, rfl, .inl rfl⟩
    | some other => exact ⟨_, rfl, .inr (.inr ⟨other, rfl⟩)⟩

/-- What marks and joins keep of a record is kept by all changes of a ledger. -/
theorem exists_get?_updateAll {P : EndingRecord → Prop}
    (hmark : ∀ r outcome now, P r → P (r.mark outcome now)) (hmerge : ∀ r other, P r → P (r.merge other))
    (h : l.get? name = some r) (hr : P r) (us : List (Update × Instant)) :
    ∃ r', (l.updateAll us).get? name = some r' ∧ P r' := by
  induction us generalizing l r with
  | nil => exact ⟨r, h, hr⟩
  | cons u us ih =>
    obtain ⟨r', h', hcases⟩ := update_cases h u.1 u.2
    apply ih h'
    rcases hcases with rfl | ⟨outcome, rfl⟩ | ⟨other, rfl⟩
    · exact hr
    · exact hmark r outcome u.2 hr
    · exact hmerge r other hr

/-! ## Dates of first reaching -/

theorem exists_firstReachedAt_updateAll (h : l.firstReachedAt name = some t)
    (us : List (Update × Instant)) : ∃ t', (l.updateAll us).firstReachedAt name = some t' := by
  obtain ⟨r, hr, ht⟩ := firstReachedAt_eq_some.1 h
  obtain ⟨r', hr', t', ht'⟩ := exists_get?_updateAll (P := EndingRecord.Dated)
    (fun _ outcome now h => h.mark outcome now) (fun _ other h => h.merge other) hr ⟨t, ht⟩ us
  exact ⟨t', firstReachedAt_eq_some.2 ⟨r', hr', ht'⟩⟩

theorem firstReachedAt_le_of_isReached (h : l.firstReachedAt name = some t)
    (hreached : l.isReached name = true) (us : List (Update × Instant)) :
    ∃ t', (l.updateAll us).firstReachedAt name = some t' ∧ t'.rank ≤ t.rank := by
  obtain ⟨r, hr, ht⟩ := firstReachedAt_eq_some.1 h
  rw [isReached, hr] at hreached
  obtain ⟨r', hr', -, t', ht', hle⟩ := exists_get?_updateAll (P := EndingRecord.ReachedBy t)
    (fun _ outcome now h => h.mark outcome now) (fun _ other h => h.merge other) hr
    ⟨hreached, t, ht, Int.le_refl _⟩ us
  exact ⟨t', firstReachedAt_eq_some.2 ⟨r', hr', ht'⟩, hle⟩

/-- A record that was not reached is dated when its ending is, whatever date it had. -/
theorem firstReachedAt_markReached (h : l.isReached name = false) (outcome : Option String)
    (now : Instant) : (l.markReached name outcome now).firstReachedAt name = some now := by
  have hreached : ((l.get? name).getD {}).reached = false := by
    rw [isReached] at h
    cases hr : l.get? name with
    | none => rfl
    | some r =>
      rw [hr] at h
      exact h
  rw [firstReachedAt, get?_markReached, if_pos rfl, Option.bind_some, EndingRecord.mark, hreached]
  rfl

/--
**Dates of first reaching.** A date that a ledger has for a name is never lost, whatever is marked and
loaded. It never moves to a later instant, as long as the clock runs forward and is ahead of all
dates, exactly if the ending is marked as reached (or the date is the last instant there is).
-/
theorem firstReachedAt_le_iff (h : l.firstReachedAt name = some t) :
    (∀ us, ∃ t', (l.updateAll us).firstReachedAt name = some t') ∧
    ((∀ us, l.Timely us →
        ∃ t', (l.updateAll us).firstReachedAt name = some t' ∧ t'.rank ≤ t.rank) ↔
      l.isReached name = true ∨ t = Instant.last) := by
  refine ⟨exists_firstReachedAt_updateAll h, ?_, ?_⟩
  · intro hle
    cases hreached : l.isReached name with
    | true => exact .inl rfl
    | false =>
      -- The ending is reached at the last instant: its date moves there.
      have htimely : l.Timely [(.mark name none, Instant.last)] :=
        ⟨fun _ t _ => t.rank_le_last, List.forall_mem_nil _, trivial⟩
      obtain ⟨t', ht', ht'le⟩ := hle _ htimely
      have hmoved : (l.updateAll [(.mark name none, Instant.last)]).firstReachedAt name =
          some Instant.last := firstReachedAt_markReached hreached none Instant.last
      rw [hmoved] at ht'
      cases ht'
      exact .inr (Instant.rank_injective (Int.le_antisymm t.rank_le_last ht'le))
  · rintro (hreached | rfl) us -
    · exact firstReachedAt_le_of_isReached h hreached us
    · obtain ⟨t', ht'⟩ := exists_firstReachedAt_updateAll h us
      exact ⟨t', ht', t'.rank_le_last⟩

/-- An instant of the year 2001. -/
def formerly : Instant :=
  ⟨⟨2001, 2, 3, by decide⟩, 14706, 0, by decide⟩

/-- A save with a date for an ending, which is marked as reached or not. -/
def dated (reached : Bool) : Save :=
  .ofList [("Attic", { reached, outcome := some "EGG", firstReachedAt := some formerly })]

/-- The date stays where the ending is marked as reached, and may move where it is not. -/
theorem firstReachedAt_le_iff_dated :
    (∀ us, (empty.load (dated true)).Timely us → ∃ t,
      ((empty.load (dated true)).updateAll us).firstReachedAt "Attic" = some t ∧
        t.rank ≤ formerly.rank) ∧
    ¬ ∀ us, (empty.load (dated false)).Timely us → ∃ t,
      ((empty.load (dated false)).updateAll us).firstReachedAt "Attic" = some t ∧
        t.rank ≤ formerly.rank := by
  constructor
  · have hdate : (empty.load (dated true)).firstReachedAt "Attic" = some formerly := by decide +kernel
    exact (firstReachedAt_le_iff hdate).2.2 (.inl (by decide +kernel))
  · have hdate : (empty.load (dated false)).firstReachedAt "Attic" = some formerly := by decide +kernel
    intro hle
    exact absurd ((firstReachedAt_le_iff hdate).2.1 hle) (by decide +kernel)

/-- The ending is reached many years after the date that is saved for it, and is dated anew. -/
theorem dated_anew :
    let text := "\x7b\"Attic\":\x7b\"reached\":false,\"outcome\":\"EGG\"," ++
      "\"first_reached_at\":\"2001-02-03T04:05:06Z\"\x7d\x7d"
    let now : Instant := ⟨⟨2024, 2, 29, by decide⟩, 43200, 0, by decide⟩
    let l := empty.load (dated false)
    Save.decode text = .ok (dated false) ∧ l.firstReachedAt "Attic" = some formerly ∧
      l.Timely [(.mark "Attic" (some "EGG"), now)] ∧
      (l.updateAll [(.mark "Attic" (some "EGG"), now)]).firstReachedAt "Attic" = some now ∧
      formerly.rank < now.rank := by
  intro text now l
  have hentries : l.entries.entries = (dated false).entries := by decide +kernel
  refine ⟨Save.decode_of_toOption (by decide +kernel), by decide +kernel, ?_, by decide +kernel,
    by decide +kernel⟩
  refine ⟨?_, List.forall_mem_nil _, trivial⟩
  intro name t ht
  obtain ⟨r, hr, hrt⟩ := firstReachedAt_eq_some.1 ht
  have hmem : (name, r) ∈ l.entries.entries := NameMap.mem_of_find?_eq_some hr
  rw [hentries] at hmem
  cases List.mem_singleton.1 hmem
  cases hrt
  decide +kernel

end Ledger

end VisualNovel
