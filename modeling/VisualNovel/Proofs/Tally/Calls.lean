/-
  VisualNovel.Proofs.Tally.Calls

  What a tally holds after any calls of `record` and `reset`. It is the tally of
  the outcomes since the last reset (`after_eq_ofOutcomes`), in whatever order they
  were met (`ofOutcomes_of_perm`). As long as there are fewer than a word can count,
  no addition overflows, and the list of the tally has exactly the tags that
  were counted (`mem_toList_ofOutcomes`).
-/

import VisualNovel.Proofs.NameMap
import VisualNovel.Proofs.Tally

namespace VisualNovel

namespace Tally

/-! ## Order -/

/-- Two outcomes may be met in either order. -/
theorem record_comm (t : Tally) (o o' : Outcome) : (t.record o).record o' = (t.record o').record o := by
  by_cases ho : o.isTallied = true
  · by_cases ho' : o'.isTallied = true
    · simp only [record, ho, ho', if_true]
      congr 1
      apply NameMap.ext_get?
      intro name
      simp only [NameMap.get?_alter]
      -- Under another tag than its own an outcome changes nothing.
      by_cases htags : o.tag = o'.tag
      · rw [htags]
      · by_cases hname : name = o.tag
        · subst hname
          simp [htags]
        · simp [hname, Ne.symm htags]
    · simp [record, ho']
  · simp [record, ho]

theorem ofOutcomes_of_perm {os os' : List Outcome} (h : os.Perm os') : ofOutcomes os = ofOutcomes os' := by
  have hcomm : LeftCommutative fun (o : Outcome) (t : Tally) => t.record o :=
    ⟨fun o o' t => record_comm t o' o⟩
  exact h.foldr_eq empty

/-! ## The list of a tally -/

/-- A tag that stands in a tally was counted. -/
theorem mem_countedTags_of_get? {os : List Outcome} {tag : String} {n : UInt32}
    (h : (ofOutcomes os).counts.get? tag = some n) : tag ∈ countedTags os := by
  induction os generalizing n with
  | nil => cases h
  | cons o os ih =>
    rw [ofOutcomes_cons, record] at h
    rw [countedTags_cons]
    split at h
    · next htallied =>
      rw [if_pos htallied, List.mem_cons]
      rw [NameMap.get?_alter] at h
      split at h
      · next htag => exact .inl htag
      · exact .inr (ih h)
    · next htallied =>
      rw [if_neg htallied]
      exact ih h

/-- The list of a tally has the tags with a positive count. -/
theorem mem_toList_ofOutcomes {os : List Outcome} (h : (countedTags os).length < UInt32.size)
    {tag : String} {n : UInt32} :
    (tag, n) ∈ (ofOutcomes os).toList ↔ n = (ofOutcomes os).count tag ∧ 0 < n := by
  rw [toList, ← NameMap.get?_eq_some_iff]
  constructor
  · intro hget
    have hcount : n = (ofOutcomes os).count tag := by
      rw [count, hget]
      rfl
    refine ⟨hcount, ?_⟩
    have hpos := List.count_pos_iff.2 (mem_countedTags_of_get? hget)
    rw [← toNat_count_ofOutcomes h, ← hcount] at hpos
    exact UInt32.lt_iff_toNat_lt.2 hpos
  · rintro ⟨hcount, hpos⟩
    rw [count] at hcount
    cases hget : (ofOutcomes os).counts.get? tag with
    | none =>
      rw [hget] at hcount
      rw [hcount] at hpos
      exact absurd hpos (UInt32.lt_irrefl _)
    | some m =>
      rw [hget] at hcount
      rw [hcount]
      rfl

/-- No sum that leads to the total is too large for a word. -/
theorem toNat_foldl_add_lt {os : List Outcome} (h : (countedTags os).length < UInt32.size)
    {es rest : List (String × UInt32)} {e : String × UInt32}
    (hlist : (ofOutcomes os).toList = es ++ e :: rest) :
    (es.foldl (fun (n : UInt32) e => n + e.2) 0).toNat + e.2.toNat < UInt32.size := by
  have hweigh := weigh_ofOutcomes h
  rw [← toList, hlist, NameMap.weigh, List.map_append, List.map_cons, List.sum_append, List.sum_cons] at hweigh
  have hle : (es.foldl (fun (n : UInt32) e => n + e.2) 0).toNat ≤ NameMap.weigh UInt32.toNat es := by
    rw [toNat_foldl_add, UInt32.toNat_zero, Nat.zero_add]
    exact Nat.mod_le _ _
  rw [NameMap.weigh] at hle
  omega

theorem toNat_total_eq_sum {os : List Outcome} (h : (countedTags os).length < UInt32.size) :
    (ofOutcomes os).total.toNat = ((ofOutcomes os).toList.map fun e => e.2.toNat).sum :=
  (toNat_total_eq_length h).trans (weigh_ofOutcomes h).symm

/-! ## Calls -/

/-- A call that changes a tally. -/
inductive Call
  | record (o : Outcome)
  | reset
  deriving DecidableEq, Repr

/-- The tally after a call. -/
def call (t : Tally) : Call → Tally
  | .record o => t.record o
  | .reset => t.reset

/-- The tally after some calls. -/
def after (calls : List Call) : Tally :=
  calls.foldl call empty

/-- The outcomes since the last reset, the latest first, as a call changes them. -/
def noteCall (os : List Outcome) : Call → List Outcome
  | .record o => o :: os
  | .reset => []

/-- The outcomes since the last reset, the latest first. -/
def sinceReset (calls : List Call) : List Outcome :=
  calls.foldl noteCall []

/-- A call changes a tally as it changes the outcomes since the last reset. -/
theorem call_ofOutcomes (os : List Outcome) (c : Call) : (ofOutcomes os).call c = ofOutcomes (noteCall os c) := by
  cases c with
  | record o => rfl
  | reset => rfl

/-- **A tally is that of the outcomes since the last reset.** -/
theorem after_eq_ofOutcomes (calls : List Call) : after calls = ofOutcomes (sinceReset calls) := by
  have hrun : ∀ os, calls.foldl call (ofOutcomes os) = ofOutcomes (calls.foldl noteCall os) := by
    induction calls with
    | nil => exact fun os => rfl
    | cons c calls ih =>
      intro os
      rw [List.foldl_cons, List.foldl_cons, call_ofOutcomes, ih]
  exact hrun []

/-- At no point are there more outcomes since the last reset than a word can count. -/
def Countable (calls : List Call) : Prop :=
  ∀ before, before <+: calls → (countedTags (sinceReset before)).length < UInt32.size

theorem length_sinceReset_le (calls : List Call) : (sinceReset calls).length ≤ calls.length := by
  have hrun : ∀ os, (calls.foldl noteCall os).length ≤ os.length + calls.length := by
    induction calls with
    | nil => exact fun os => Nat.le_refl _
    | cons c calls ih =>
      intro os
      have hcall : (noteCall os c).length ≤ os.length + 1 := by
        cases c with
        | record o => exact Nat.le_refl _
        | reset => exact Nat.zero_le _
      have hcalls := ih (noteCall os c)
      rw [List.foldl_cons, List.length_cons]
      omega
  have hall := hrun []
  rwa [List.length_nil, Nat.zero_add] at hall

/-- Fewer calls than a word can count are never too many. -/
theorem countable_of_length_lt {calls : List Call} (h : calls.length < UInt32.size) : Countable calls := by
  intro before hbefore
  calc (countedTags (sinceReset before)).length
    _ ≤ (sinceReset before).length := length_countedTags_le _
    _ ≤ before.length := length_sinceReset_le before
    _ ≤ calls.length := hbefore.length_le
    _ < UInt32.size := h

/--
**The arithmetic of tallies.** As long as fewer outcomes that are no menus are met between resets than
a word can count, no addition overflows, neither of a count nor on the way to the total. The count of a
tag is how often it was met since the last reset, the list of a tally has the tags with a positive count
in ascending order, and the total is the sum of these. The order of the outcomes since the last reset
does not matter.
-/
theorem counts_since_reset {calls : List Call} (h : Countable calls) :
    (∀ before o, before ++ [.record o] <+: calls → o.isTallied = true →
      ((after before).count o.tag).toNat + 1 < UInt32.size) ∧
    (∀ es e rest, (after calls).toList = es ++ e :: rest →
      (es.foldl (fun (n : UInt32) e => n + e.2) 0).toNat + e.2.toNat < UInt32.size) ∧
    (∀ tag, ((after calls).count tag).toNat = (countedTags (sinceReset calls)).count tag) ∧
    (∀ tag n, (tag, n) ∈ (after calls).toList ↔ n = (after calls).count tag ∧ 0 < n) ∧
    (after calls).toList.Pairwise (fun e e' => e.1 < e'.1) ∧
    (after calls).total.toNat = ((after calls).toList.map fun e => e.2.toNat).sum ∧
    ∀ calls', (sinceReset calls).Perm (sinceReset calls') → after calls = after calls' := by
  have hlt := h calls (List.prefix_refl calls)
  refine ⟨?_, ?_, ?_, ?_, ?_, ?_, ?_⟩
  · intro before o hbefore ho
    have hmet := h _ hbefore
    rw [sinceReset, List.foldl_append] at hmet
    rw [after_eq_ofOutcomes]
    exact toNat_count_add_one_lt ho hmet
  · intro es e rest hlist
    rw [after_eq_ofOutcomes] at hlist
    exact toNat_foldl_add_lt hlt hlist
  · intro tag
    rw [after_eq_ofOutcomes, toNat_count_ofOutcomes hlt]
  · intro tag n
    rw [after_eq_ofOutcomes]
    exact mem_toList_ofOutcomes hlt
  · exact (after calls).counts.ascending
  · rw [after_eq_ofOutcomes]
    exact toNat_total_eq_sum hlt
  · intro calls' hperm
    rw [after_eq_ofOutcomes, after_eq_ofOutcomes, ofOutcomes_of_perm hperm]

/-- A reset, a menu, and one tag that is met as a path and as an ending. -/
def mixedCalls : List Call :=
  [.record ⟨"EGG", .ending⟩, .reset, .record ⟨"GOOD", .path⟩, .record ⟨"Menu-page", .menu⟩,
    .record ⟨"EGG", .ending⟩, .record ⟨"GOOD", .ending⟩]

/-- Since the reset there were three outcomes that count, in this or the opposite order. -/
theorem counts_since_reset_mixedCalls :
    Countable mixedCalls ∧ (after mixedCalls).toList = [("EGG", 1), ("GOOD", 2)] ∧
      (after mixedCalls).total.toNat = 3 ∧
      after mixedCalls = after ((sinceReset mixedCalls).map .record) := by
  have hcountable : Countable mixedCalls := countable_of_length_lt (by decide)
  have hlist : (after mixedCalls).toList = [("EGG", 1), ("GOOD", 2)] := by decide
  obtain ⟨-, -, -, -, -, htotal, horder⟩ := counts_since_reset hcountable
  refine ⟨hcountable, hlist, ?_, horder _ ?_⟩
  · rw [htotal, hlist]
    decide
  · exact (List.reverse_perm _).symm

end Tally

end VisualNovel
