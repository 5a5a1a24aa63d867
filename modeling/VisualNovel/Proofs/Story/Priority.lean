/-
  VisualNovel.Proofs.Story.Priority

  What the outcome of some tags is. It is the marker of highest priority among
  them (`ofTags_eq_some_iff`), and there is none only without a marker
  (`ofTags_eq_none_iff`). So of two sets of tags together the outcome is that of
  the two outcomes which stands first (`ofTags_union`), and no tag that is added
  lowers it.
-/

import VisualNovel.Proofs.NameMap
import VisualNovel.Proofs.Story.Lookup

namespace VisualNovel

namespace Outcome

variable {s t : NameSet} {o : Outcome}

/-! ## Ranks -/

/-- The place of an outcome's tag among those of the markers, from the highest priority down. -/
def rank (o : Outcome) : Nat :=
  (markers.map (·.tag)).idxOf o.tag

/-- No two markers have the same place. -/
theorem eq_of_rank_eq {a b : Outcome} (ha : a ∈ markers) (hb : b ∈ markers) (h : a.rank = b.rank) :
    a = b := by
  have hall : ∀ a ∈ markers, ∀ b ∈ markers, a.rank = b.rank → a = b := by decide
  exact hall a ha b hb h

/-- What is found by its tag stands before all else that could have been found. -/
theorem idxOf_le_of_find? {p : String → Bool} {ms : List Outcome} {m : Outcome}
    (h : (ms.find? fun m => p m.tag) = some o) (hm : m ∈ ms) (hp : p m.tag = true) :
    (ms.map (·.tag)).idxOf o.tag ≤ (ms.map (·.tag)).idxOf m.tag := by
  induction ms with
  | nil => cases hm
  | cons x ms ih =>
    rw [List.map_cons, List.idxOf_cons, List.idxOf_cons]
    rw [List.find?_cons] at h
    split at h
    · cases h
      simp
    · next hx =>
      -- The first one has another tag than `m`, so the place of `m` is among the rest.
      have hne : x.tag ≠ m.tag := by
        intro heq
        rw [heq, hp] at hx
        cases hx
      have hmem : m ∈ ms := (List.mem_cons.1 hm).resolve_left fun heq => hne (congrArg Outcome.tag heq).symm
      have hle := ih h hmem
      rw [beq_false_of_ne hne, cond_false, cond_eq_ite]
      split
      · exact Nat.zero_le _
      · exact Nat.succ_le_succ hle

/-! ## The outcome of some tags -/

theorem ofTags_eq_none_iff : ofTags s = none ↔ ∀ m ∈ markers, s.contains m.tag = false := by
  simp only [ofTags, List.find?_eq_none, Bool.not_eq_true]

/-- **The outcome is the marker of highest priority** among the tags. -/
theorem ofTags_eq_some_iff :
    ofTags s = some o ↔
      o ∈ markers ∧ s.contains o.tag = true ∧ ∀ m ∈ markers, s.contains m.tag = true → o.rank ≤ m.rank := by
  have hfirst : ∀ a, ofTags s = some a → a ∈ markers ∧ s.contains a.tag = true ∧
      ∀ m ∈ markers, s.contains m.tag = true → a.rank ≤ m.rank := by
    intro a ha
    have hcontains := List.find?_some ha
    exact ⟨mem_markers_of_ofTags ha, hcontains, fun m hm hs => idxOf_le_of_find? ha hm hs⟩
  constructor
  · exact hfirst o
  · rintro ⟨ho, hs, hmin⟩
    cases htags : ofTags s with
    | none =>
      rw [ofTags_eq_none_iff.1 htags o ho] at hs
      cases hs
    | some a =>
      obtain ⟨ha, hsa, hmina⟩ := hfirst a htags
      have hrank : a.rank = o.rank := Nat.le_antisymm (hmina o ho hs) (hmin a ha hsa)
      rw [eq_of_rank_eq ha ho hrank]

/-- Only the markers among the tags matter. -/
theorem ofTags_congr (h : ∀ m ∈ markers, s.contains m.tag = t.contains m.tag) : ofTags s = ofTags t := by
  apply Option.ext
  intro o
  rw [ofTags_eq_some_iff, ofTags_eq_some_iff]
  constructor
  · rintro ⟨ho, hs, hmin⟩
    exact ⟨ho, h o ho ▸ hs, fun m hm ht => hmin m hm (h m hm ▸ ht)⟩
  · rintro ⟨ho, ht, hmin⟩
    exact ⟨ho, h o ho ▸ ht, fun m hm hs => hmin m hm (h m hm ▸ hs)⟩

/-! ## Sets together -/

/-- The one of two outcomes that stands first, or the only one there is. -/
def prior : Option Outcome → Option Outcome → Option Outcome
  | some a, some b => if a.rank ≤ b.rank then some a else some b
  | some a, none => some a
  | none, b => b

/-- **The outcome of two sets together** is the prior one of their outcomes. -/
theorem ofTags_union (s t : NameSet) : ofTags (s.union t) = prior (ofTags s) (ofTags t) := by
  have hunion : ∀ m : Outcome, (s.union t).contains m.tag = (s.contains m.tag || t.contains m.tag) :=
    fun m => s.contains_union t m.tag
  cases hs : ofTags s with
  | none =>
    -- Without markers in the first set those of both are those of the second one.
    apply ofTags_congr
    intro m hm
    rw [hunion, ofTags_eq_none_iff.1 hs m hm, Bool.false_or]
  | some a =>
    obtain ⟨ha, hsa, hmina⟩ := ofTags_eq_some_iff.1 hs
    cases ht : ofTags t with
    | none =>
      rw [prior, ← hs]
      apply ofTags_congr
      intro m hm
      rw [hunion, ofTags_eq_none_iff.1 ht m hm, Bool.or_false]
    | some b =>
      obtain ⟨hb, htb, hminb⟩ := ofTags_eq_some_iff.1 ht
      -- A marker of the two together is in one of them, whose outcome stands before it.
      have hmin : ∀ m ∈ markers, (s.union t).contains m.tag = true → a.rank ≤ m.rank ∨ b.rank ≤ m.rank := by
        intro m hm hst
        rw [hunion, Bool.or_eq_true] at hst
        exact hst.imp (hmina m hm) (hminb m hm)
      rw [prior]
      split
      · next hle =>
        refine ofTags_eq_some_iff.2 ⟨ha, ?_, fun m hm hst => ?_⟩
        · rw [hunion, hsa, Bool.true_or]
        · exact (hmin m hm hst).elim id (Nat.le_trans hle)
      · next hlt =>
        refine ofTags_eq_some_iff.2 ⟨hb, ?_, fun m hm hst => ?_⟩
        · rw [hunion, htb, Bool.or_true]
        · exact (hmin m hm hst).elim (Nat.le_trans (Nat.le_of_not_le hlt)) id

/-- More tags do not lower an outcome. -/
theorem exists_rank_le_of_union (h : ofTags s = some o) (t : NameSet) :
    ∃ a, ofTags (s.union t) = some a ∧ a.rank ≤ o.rank := by
  rw [ofTags_union, h]
  cases ofTags t with
  | none => exact ⟨o, rfl, Nat.le_refl _⟩
  | some b =>
    rw [prior]
    split
    · exact ⟨o, rfl, Nat.le_refl _⟩
    · next hlt => exact ⟨b, rfl, Nat.le_of_not_le hlt⟩

/--
**Outcomes go by priority.** The outcome of some tags is the marker of highest priority among them,
and there is none only without a marker. The outcome of two sets together is the prior one of their
outcomes. Tags that are no markers do not matter, nor do the order and the repetition of the tags
that a set is made from. More tags of a passage leave it an outcome of the same or higher priority.
-/
theorem ofTags_by_priority :
    (∀ (s : NameSet) (o : Outcome), ofTags s = some o ↔
      o ∈ markers ∧ s.contains o.tag = true ∧ ∀ m ∈ markers, s.contains m.tag = true → o.rank ≤ m.rank) ∧
    (∀ s : NameSet, ofTags s = none ↔ ∀ m ∈ markers, s.contains m.tag = false) ∧
    (∀ s t : NameSet, ofTags (s.union t) = prior (ofTags s) (ofTags t)) ∧
    (∀ s t : NameSet, (∀ m ∈ markers, s.contains m.tag = t.contains m.tag) → ofTags s = ofTags t) ∧
    (∀ names names' : List String, (∀ name, name ∈ names ↔ name ∈ names') →
      ofTags (.ofNames names) = ofTags (.ofNames names')) ∧
    ∀ (p : Passage) (more : NameSet) (o : Outcome), p.outcome = some o →
      ∃ o', { p with tags := p.tags.union more }.outcome = some o' ∧ o'.rank ≤ o.rank := by
  refine ⟨?_, ?_, ofTags_union, ?_, ?_, ?_⟩
  · exact fun s o => ofTags_eq_some_iff
  · exact fun s => ofTags_eq_none_iff
  · exact fun s t h => ofTags_congr h
  · intro names names' h
    rw [NameSet.ofNames_eq h]
  · exact fun p more o h => exists_rank_le_of_union h more

/-- Two more markers, of which the first one wins over all. -/
theorem ofTags_by_priority_attic :
    let p : Passage := ⟨1, "Attic", "Dust.", .ofNames ["dusty", "GOOD"], []⟩
    let more := NameSet.ofNames ["EGG", "dark", "BAD-END"]
    p.outcome = some ⟨"GOOD", .path⟩ ∧ ofTags (p.tags.union more) = some ⟨"BAD-END", .ending⟩ ∧
      ∃ o, { p with tags := p.tags.union more }.outcome = some o ∧ o.rank ≤ rank ⟨"GOOD", .path⟩ := by
  intro p more
  have hgood : p.outcome = some ⟨"GOOD", .path⟩ := by decide
  have hbad : ofTags more = some ⟨"BAD-END", .ending⟩ := by decide
  obtain ⟨-, -, hunion, -, -, hmore⟩ := ofTags_by_priority
  refine ⟨hgood, ?_, hmore p more _ hgood⟩
  have hfirst : ofTags p.tags = some ⟨"GOOD", .path⟩ := hgood
  rw [hunion, hfirst, hbad]
  decide

end Outcome

end VisualNovel
