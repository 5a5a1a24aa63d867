/-
  VisualNovel.Proofs.Tally

  What a tally counts. After some outcomes the count of a tag is the number of
  those that carry it and are no menus (`toNat_count_ofOutcomes`), and the total
  is the sum of all counts (`toNat_total_ofOutcomes`), as long as there are fewer
  such outcomes than a word can count.
-/

import Mathlib.Algebra.BigOperators.Finprod
import VisualNovel.Proofs.Session

namespace VisualNovel

/-! ## Sums over a map -/

namespace NameMap

variable {α : Type u}

/-- The sum of what the values of some entries weigh. -/
def weigh (g : α → Nat) (es : List (String × α)) : Nat :=
  (es.map fun e => g e.2).sum

theorem weigh_cons (g : α → Nat) (e : String × α) (es : List (String × α)) :
    weigh g (e :: es) = g e.2 + weigh g es := rfl

/-- A new value under a name takes the place of what the former one weighed. -/
theorem weigh_alterEntries (g : α → Nat) (name : String) (f : Option α → α)
    {es : List (String × α)} (h : es.Pairwise (fun a b => a.1 < b.1)) :
    weigh g (alterEntries name f es) + ((find? name es).map g).getD 0 =
      weigh g es + g (f (find? name es)) := by
  induction es with
  | nil => simp [alterEntries, weigh, find?]
  | cons e rest ih =>
    obtain ⟨k, v⟩ := e
    have hrest := List.pairwise_cons.1 h
    rw [alterEntries]
    split
    · next hlt =>
      -- The name would stand before all others, so it has no value yet.
      have hnone : find? name ((k, v) :: rest) = none := by
        apply find?_eq_none_of_forall
        intro e he heq
        rcases List.mem_cons.1 he with rfl | he
        · exact String.lt_irrefl _ (heq ▸ hlt)
        · exact String.lt_irrefl _ (heq ▸ String.lt_trans hlt (hrest.1 e he))
      rw [hnone, weigh_cons]
      simp only [Option.map_none, Option.getD_none]
      omega
    · split
      · next heq =>
        rw [weigh_cons, weigh_cons, find?, if_pos heq.symm]
        simp only [Option.map_some, Option.getD_some]
        omega
      · next hne =>
        have hih := ih hrest.2
        rw [weigh_cons, weigh_cons, find?, if_neg (Ne.symm hne)]
        omega

end NameMap

/-! ## Counting -/

namespace Tally

/-- The tally of some outcomes. -/
def ofOutcomes (os : List Outcome) : Tally :=
  os.foldr (fun o t => t.record o) empty

@[simp] theorem ofOutcomes_nil : ofOutcomes [] = empty := rfl

@[simp] theorem ofOutcomes_cons (o : Outcome) (os : List Outcome) :
    ofOutcomes (o :: os) = (ofOutcomes os).record o := rfl

/-- The tags that are counted, once for each time. -/
def countedTags (os : List Outcome) : List String :=
  (os.filter Outcome.isTallied).map (·.tag)

theorem length_countedTags_le (os : List Outcome) : (countedTags os).length ≤ os.length := by
  rw [countedTags, List.length_map]
  exact List.length_filter_le _ os

theorem countedTags_cons (o : Outcome) (os : List Outcome) :
    countedTags (o :: os) = if o.isTallied then o.tag :: countedTags os else countedTags os := by
  rw [countedTags, List.filter_cons]
  split <;> rfl

theorem length_countedTags_le_cons (o : Outcome) (os : List Outcome) :
    (countedTags os).length ≤ (countedTags (o :: os)).length := by
  rw [countedTags_cons]
  split
  · exact Nat.le_succ _
  · exact Nat.le_refl _

/-- No count is above the number of tags, so there is room for one more if they can all be counted. -/
theorem count_countedTags_add_one_lt {o : Outcome} {os : List Outcome} (ho : o.isTallied = true)
    (h : (countedTags (o :: os)).length < UInt32.size) : (countedTags os).count o.tag + 1 < UInt32.size := by
  rw [countedTags_cons, if_pos ho, List.length_cons] at h
  exact Nat.lt_of_le_of_lt (Nat.succ_le_succ List.count_le_length) h

theorem toNat_count_ofOutcomes {os : List Outcome} (h : (countedTags os).length < UInt32.size)
    (tag : String) : ((ofOutcomes os).count tag).toNat = (countedTags os).count tag := by
  induction os with
  | nil => rfl
  | cons o os ih =>
    have hlt : (countedTags os).length < UInt32.size :=
      Nat.lt_of_le_of_lt (length_countedTags_le_cons o os) h
    rw [ofOutcomes_cons, count_record, countedTags_cons]
    by_cases htallied : o.isTallied = true
    · by_cases htag : tag = o.tag
      · rw [if_pos ⟨htallied, htag⟩, if_pos htallied, UInt32.toNat_add, ih hlt, htag, List.count_cons_self]
        exact Nat.mod_eq_of_lt (count_countedTags_add_one_lt htallied h)
      · rw [if_neg (fun h => htag h.2), if_pos htallied, List.count_cons_of_ne (Ne.symm htag), ih hlt]
    · rw [if_neg (fun h => htallied h.1), if_neg htallied, ih hlt]

/-- A count has room for one more meeting if all meetings can be counted. -/
theorem toNat_count_add_one_lt {o : Outcome} {os : List Outcome} (ho : o.isTallied = true)
    (h : (countedTags (o :: os)).length < UInt32.size) :
    ((ofOutcomes os).count o.tag).toNat + 1 < UInt32.size := by
  rw [toNat_count_ofOutcomes (Nat.lt_of_le_of_lt (length_countedTags_le_cons o os) h)]
  exact count_countedTags_add_one_lt ho h

/-! ## The total -/

theorem toNat_foldl_add (es : List (String × UInt32)) (n : UInt32) :
    (es.foldl (fun n e => n + e.2) n).toNat =
      (n.toNat + NameMap.weigh UInt32.toNat es) % UInt32.size := by
  induction es generalizing n with
  | nil => exact (Nat.mod_eq_of_lt n.toNat_lt).symm
  | cons e es ih =>
    rw [List.foldl_cons, ih, UInt32.toNat_add, NameMap.weigh_cons, UInt32.size]
    omega

/-- A tally weighs one more for each outcome that counts. -/
theorem weigh_record (t : Tally) (o : Outcome)
    (h : o.isTallied = true → (t.count o.tag).toNat + 1 < UInt32.size) :
    NameMap.weigh UInt32.toNat (t.record o).counts.entries =
      NameMap.weigh UInt32.toNat t.counts.entries + if o.isTallied then 1 else 0 := by
  rw [record]
  split
  · next htallied =>
    have hweigh := NameMap.weigh_alterEntries UInt32.toNat o.tag (fun n => n.getD 0 + 1)
      t.counts.ascending
    have hnew : (t.count o.tag + 1).toNat = (t.count o.tag).toNat + 1 := by
      rw [UInt32.toNat_add]
      exact Nat.mod_eq_of_lt (h htallied)
    have hold : ((NameMap.find? o.tag t.counts.entries).map UInt32.toNat).getD 0 =
        (t.count o.tag).toNat := by
      rw [count, NameMap.get?]
      cases NameMap.find? o.tag t.counts.entries <;> rfl
    have hget : (NameMap.find? o.tag t.counts.entries).getD 0 = t.count o.tag := rfl
    simp only [hget, hold, hnew] at hweigh
    show NameMap.weigh UInt32.toNat (NameMap.alterEntries _ _ _) = _
    omega
  · rfl

theorem weigh_ofOutcomes {os : List Outcome} (h : (countedTags os).length < UInt32.size) :
    NameMap.weigh UInt32.toNat (ofOutcomes os).counts.entries = (countedTags os).length := by
  induction os with
  | nil => rfl
  | cons o os ih =>
    have hlt : (countedTags os).length < UInt32.size :=
      Nat.lt_of_le_of_lt (length_countedTags_le_cons o os) h
    rw [ofOutcomes_cons, weigh_record _ o fun ho => toNat_count_add_one_lt ho h, ih hlt, countedTags_cons]
    split <;> rfl

/-- The total is the number of outcomes that count. -/
theorem toNat_total_eq_length {os : List Outcome} (h : (countedTags os).length < UInt32.size) :
    (ofOutcomes os).total.toNat = (countedTags os).length := by
  rw [total, toNat_foldl_add, weigh_ofOutcomes h, UInt32.toNat_zero, Nat.zero_add, Nat.mod_eq_of_lt h]

/-- The total is the sum over all tags. -/
theorem toNat_total_ofOutcomes {os : List Outcome} (h : (countedTags os).length < UInt32.size) :
    (ofOutcomes os).total.toNat = ∑ᶠ tag, ((ofOutcomes os).count tag).toNat := by
  have hsupport : (Function.support fun tag => (countedTags os).count tag) ⊆
      ((countedTags os).toFinset : Set String) := by
    intro tag htag
    simpa [List.count_eq_zero] using htag
  simp only [toNat_count_ofOutcomes h]
  rw [toNat_total_eq_length h, finsum_eq_sum_of_support_subset _ hsupport, List.sum_toFinset_count_eq_length]

end Tally

end VisualNovel
