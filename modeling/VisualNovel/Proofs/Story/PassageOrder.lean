/-
  VisualNovel.Proofs.Story.PassageOrder

  The order in which passages are given does not matter. In any order they make one
  story, or have one defect to report (`build_of_any_order`). Names are no exception,
  although the passages are put into the index of names one after another and a later
  one takes the place of an earlier one: it is the story's own order in which they are
  put in, so a name leads to the highest id that bears it (`findByName?_eq_some_iff`).
-/

import VisualNovel.Proofs.NameMap
import VisualNovel.Proofs.Story.Building
import VisualNovel.Proofs.Story.Lookup

namespace VisualNovel.Story

variable {s : Story} {ps qs : List Passage} {start altStart : PassageId}

/-! ## Names -/

/-- The ids by name, once every passage is put in, each in the place of an earlier one of its name. -/
def nameIndex (s : Story) : NameMap PassageId :=
  s.passages.foldl (fun index p => index.insert p.name p.id) .empty

theorem nameIndex_eq (s : Story) : s.nameIndex = .ofList (s.passages.map fun p => (p.name, p.id)) := by
  rw [NameMap.ofList, List.foldl_map]
  rfl

/-- A name is looked up in the index, and then the passage under the id that stands there. -/
theorem findByName?_eq_index (s : Story) (name : String) :
    s.findByName? name = (s.nameIndex.get? name).bind s.get? := by
  have hindex : s.nameIndex.get? name = (s.findByName? name).map (·.id) := by
    rw [nameIndex_eq, NameMap.get?_ofList, NameMap.find?_reverse, List.filter_map, List.getLast?_map,
      Option.map_map]
    rfl
  rw [hindex]
  cases hfound : s.findByName? name with
  | none => rfl
  | some p =>
    have hmem : p ∈ s.passages := List.mem_of_mem_filter (List.mem_of_getLast? hfound)
    exact (get?_of_mem hmem).symm

/-- Of several passages with a name none comes after the last one. -/
theorem id_le_of_findByName? {name : String} {p q : Passage} (h : s.findByName? name = some p)
    (hq : q ∈ s.passages) (hname : q.name = name) : q.id ≤ p.id := by
  obtain ⟨before, hsplit⟩ := List.getLast?_eq_some_iff.1 h
  have hordered : (before ++ [p]).Pairwise (·.id < ·.id) := hsplit ▸ s.pairwise_id.filter _
  have hqmem : q ∈ before ++ [p] := hsplit ▸ List.mem_filter.2 ⟨hq, decide_eq_true hname⟩
  rcases List.mem_append.1 hqmem with hbefore | hlast
  · have hlt : q.id < p.id := (List.pairwise_append.1 hordered).2.2 q hbefore p (List.mem_singleton_self p)
    exact UInt32.le_of_lt hlt
  · rw [List.mem_singleton.1 hlast]
    exact UInt32.le_refl _

theorem findByName?_eq_none_iff {name : String} :
    s.findByName? name = none ↔ ∀ p ∈ s.passages, p.name ≠ name := by
  rw [findByName?, List.getLast?_eq_none_iff, List.filter_eq_nil_iff]
  simp only [decide_eq_true_eq, Ne]

/-- A name leads to the passage with the highest id of those that bear it. -/
theorem findByName?_eq_some_iff {name : String} {p : Passage} :
    s.findByName? name = some p ↔
      p ∈ s.passages ∧ p.name = name ∧ ∀ q ∈ s.passages, q.name = name → q.id ≤ p.id := by
  constructor
  · intro h
    obtain ⟨hmem, hname⟩ := List.mem_filter.1 (List.mem_of_getLast? h)
    exact ⟨hmem, of_decide_eq_true hname, fun q hq hqname => id_le_of_findByName? h hq hqname⟩
  · rintro ⟨hmem, hname, hhighest⟩
    cases hfound : s.findByName? name with
    | none => exact absurd hname (findByName?_eq_none_iff.1 hfound p hmem)
    | some q =>
      obtain ⟨hqmem, hqname⟩ := List.mem_filter.1 (List.mem_of_getLast? hfound)
      have hid : p.id = q.id :=
        UInt32.le_antisymm (id_le_of_findByName? hfound hmem hname) (hhighest q hqmem (of_decide_eq_true hqname))
      -- An id stands for one passage only.
      have hlookup := get?_of_mem hqmem
      rw [← hid, get?_of_mem hmem] at hlookup
      exact hlookup.symm

/-! ## Any order -/

/-- The passages of a story are those that it was built from. -/
theorem perm_of_build (h : build ps start altStart = .ok s) : s.passages.Perm ps := by
  cases hgap : firstGap 1 (sortById ps) with
  | some gap =>
    rw [build_of_gap hgap] at h
    cases h
  | none =>
    by_cases hne : ps = []
    · subst hne
      cases h
    · rw [build_of_dense rfl hgap hne] at h
      split at h <;> try cases h
      split at h <;> try cases h
      split at h <;> cases h
      exact sortById_perm ps

/-- Names lead to some passages: each to the one with the highest id of those that bear it, if any does. -/
structure FindsAmong (s : Story) (ps : List Passage) : Prop where
  through_index : ∀ name, s.findByName? name = (s.nameIndex.get? name).bind s.get?
  found_iff : ∀ name p, s.findByName? name = some p ↔
    p ∈ ps ∧ p.name = name ∧ ∀ q ∈ ps, q.name = name → q.id ≤ p.id
  none_iff : ∀ name, s.findByName? name = none ↔ ∀ p ∈ ps, p.name ≠ name

theorem findsAmong_of_perm (h : s.passages.Perm ps) : s.FindsAmong ps where
  through_index := s.findByName?_eq_index
  found_iff name p := by simp only [findByName?_eq_some_iff, h.mem_iff]
  none_iff name := by simp only [findByName?_eq_none_iff, h.mem_iff]

/--
**The order of the passages does not matter.** Given in another order they have the same defect to
report, or they make the same story, in which each name leads to the passage with the highest id
among those that bear it, and to none if there is none.
-/
theorem build_of_any_order (h : ps.Perm qs) (start altStart : PassageId) :
    (∃ e, build ps start altStart = .error e ∧ build qs start altStart = .error e) ∨
    ∃ s : Story, build ps start altStart = .ok s ∧ build qs start altStart = .ok s ∧ s.FindsAmong ps := by
  have hsame := build_perm h start altStart
  cases hbuild : build ps start altStart with
  | error e =>
    rw [hbuild] at hsame
    exact .inl ⟨e, rfl, hsame.symm⟩
  | ok s =>
    rw [hbuild] at hsame
    exact .inr ⟨s, rfl, hsame.symm, findsAmong_of_perm (perm_of_build hbuild)⟩

/-- Two cellars, the later one first, and the hall above them. -/
def cellars : List Passage :=
  [{ id := 3, name := "Cellar", text := "Wine.", tags := .empty, links := [] },
    { id := 1, name := "Hall", text := "", tags := .empty, links := [⟨"Left", "Cellar", 2⟩, ⟨"Right", "Cellar", 3⟩] },
    { id := 2, name := "Cellar", text := "Coal.", tags := .empty, links := [] }]

/-- In both orders the name leads to the cellar with the higher id. -/
theorem build_of_any_order_cellars :
    cellars.Perm cellars.reverse ∧
    ∃ s : Story, build cellars 1 1 = .ok s ∧ build cellars.reverse 1 1 = .ok s ∧ s.FindsAmong cellars ∧
      (s.findByName? "Cellar").map (·.id) = some 3 := by
  have hperm : cellars.Perm cellars.reverse := (List.reverse_perm cellars).symm
  have hcellar : (build cellars 1 1).toOption.map (fun s => (s.findByName? "Cellar").map (·.id)) = some (some 3) := by
    decide
  refine ⟨hperm, ?_⟩
  rcases build_of_any_order hperm 1 1 with ⟨e, he, -⟩ | ⟨s, hs, hs', hfinds⟩
  · rw [he] at hcellar
    cases hcellar
  · rw [hs] at hcellar
    exact ⟨s, hs, hs', hfinds, Option.some.inj hcellar⟩

end VisualNovel.Story
