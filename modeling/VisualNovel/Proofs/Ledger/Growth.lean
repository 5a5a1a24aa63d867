/-
  VisualNovel.Proofs.Ledger.Growth

  A ledger only grows. Whatever is marked and loaded, a record that is there stays,
  and so do its flag and its outcome; the same endings are counted, and no fewer of
  them as reached. One change does this (`grows_update`), so any number of them do,
  from any point of a run to any later one (`grows_between`).
-/

import VisualNovel.Proofs.Ledger.Count
import VisualNovel.Proofs.Ledger.FirstReached

namespace VisualNovel

open Time (Instant)

/-! ## Records -/

namespace EndingRecord

/-- What stays of a record. -/
structure Retains (before after : EndingRecord) : Prop where
  reached : before.reached = true → after.reached = true
  outcome : ∀ tag, before.outcome = some tag → after.outcome = some tag

theorem Retains.refl (r : EndingRecord) : r.Retains r :=
  ⟨id, fun _ h => h⟩

theorem Retains.trans {r q p : EndingRecord} (h : r.Retains q) (h' : q.Retains p) : r.Retains p :=
  ⟨fun hr => h'.reached (h.reached hr), fun tag htag => h'.outcome tag (h.outcome tag htag)⟩

theorem retains_mark (r : EndingRecord) (outcome : Option String) (now : Instant) :
    r.Retains (r.mark outcome now) :=
  ⟨fun _ => rfl, fun tag h => by rw [mark, h, Option.some_or]⟩

theorem retains_merge (r other : EndingRecord) : r.Retains (r.merge other) :=
  ⟨fun h => by rw [merge, h, Bool.true_or], fun tag h => by rw [merge, h, Option.some_or]⟩

end EndingRecord

/-! ## Ledgers -/

namespace Ledger

/-- A ledger and what became of it later. -/
structure Grows (before after : Ledger) : Prop where
  /-- No record disappears, a reached one stays reached, and an outcome that is known stays. -/
  retains : ∀ name r, before.get? name = some r → ∃ r', after.get? name = some r' ∧ r.Retains r'
  total_eq : after.total = before.total
  reachedCount_le : before.reachedCount ≤ after.reachedCount

theorem Grows.refl (l : Ledger) : l.Grows l where
  retains _ r h := ⟨r, h, .refl r⟩
  total_eq := rfl
  reachedCount_le := Nat.le_refl _

theorem Grows.trans {l m n : Ledger} (h : l.Grows m) (h' : m.Grows n) : l.Grows n where
  retains name r hr := by
    obtain ⟨q, hq, hrq⟩ := h.retains name r hr
    obtain ⟨p, hp, hqp⟩ := h'.retains name q hq
    exact ⟨p, hp, hrq.trans hqp⟩
  total_eq := h'.total_eq.trans h.total_eq
  reachedCount_le := Nat.le_trans h.reachedCount_le h'.reachedCount_le

theorem story_update (l : Ledger) (u : Update) (now : Instant) : (l.update u now).story = l.story := by
  cases u <;> rfl

theorem exists_retains_update {l : Ledger} {name : String} {r : EndingRecord} (h : l.get? name = some r)
    (u : Update) (now : Instant) : ∃ r', (l.update u now).get? name = some r' ∧ r.Retains r' := by
  obtain ⟨r', hr', hcases⟩ := update_cases h u now
  refine ⟨r', hr', ?_⟩
  rcases hcases with rfl | ⟨outcome, rfl⟩ | ⟨other, rfl⟩
  · exact .refl r'
  · exact r.retains_mark outcome now
  · exact r.retains_merge other

theorem isReached_update {l : Ledger} {name : String} (h : l.isReached name = true) (u : Update)
    (now : Instant) : (l.update u now).isReached name = true := by
  obtain ⟨r, hr, hreached⟩ := (Option.any_eq_true ..).1 h
  obtain ⟨r', hr', hretains⟩ := exists_retains_update hr u now
  exact (Option.any_eq_true ..).2 ⟨r', hr', hretains.reached hreached⟩

theorem grows_update (l : Ledger) (u : Update) (now : Instant) : l.Grows (l.update u now) where
  retains _ _ h := exists_retains_update h u now
  total_eq := congrArg NameMap.size (l.story_update u now)
  reachedCount_le := reachedCount_le_of_isReached (l.story_update u now) fun _ h => isReached_update h u now

/-- An ending that is reached is counted at most once. -/
theorem reachedCount_markReached_cases (l : Ledger) (name : String) (outcome : Option String)
    (now : Instant) :
    (l.markReached name outcome now).reachedCount = l.reachedCount ∨
      (l.markReached name outcome now).reachedCount = l.reachedCount + 1 := by
  have hsubset : (l.markReached name outcome now).reachedNames ⊆ name :: l.reachedNames := by
    intro other hother
    obtain ⟨hstory, hreached⟩ := mem_reachedNames.1 hother
    rcases (isReached_markReached l name other outcome now).1 hreached with rfl | hreached
    · exact List.mem_cons_self
    · exact List.mem_cons_of_mem _ (mem_reachedNames.2 ⟨hstory, hreached⟩)
  have hle := (List.subperm_of_subset (nodup_reachedNames _) hsubset).length_le
  have hge : l.reachedCount ≤ (l.markReached name outcome now).reachedCount :=
    (l.grows_update (.mark name outcome) now).reachedCount_le
  rw [length_reachedNames, List.length_cons, length_reachedNames] at hle
  omega

theorem grows_updateAll (l : Ledger) (us : List (Update × Instant)) : l.Grows (l.updateAll us) := by
  induction us generalizing l with
  | nil => exact .refl l
  | cons u us ih => exact (l.grows_update u.1 u.2).trans (ih _)

/-- **A ledger only grows**, from any point of a run of marks and loads to any later one. -/
theorem grows_between (l : Ledger) (earlier later : List (Update × Instant)) :
    (l.updateAll earlier).Grows (l.updateAll (earlier ++ later)) := by
  rw [updateAll, updateAll, List.foldl_append]
  exact grows_updateAll _ later

end Ledger

end VisualNovel
