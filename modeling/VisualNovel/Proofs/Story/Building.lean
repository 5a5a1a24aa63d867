/-
  VisualNovel.Proofs.Story.Building

  A story is built from passages in any order (`build_perm`). Sorting puts their
  ids in the one ascending order, so the first gap is the same; and where there is
  no gap each id stands once, so the sorted passages are the same, too.
-/

import Mathlib.Data.List.Nodup
import VisualNovel.Story.Basic

namespace VisualNovel.Story

variable {ps qs : List Passage}

/-! ## Sorting -/

theorem insertById_perm (p : Passage) (ps : List Passage) : (insertById p ps).Perm (p :: ps) := by
  induction ps with
  | nil => exact .refl _
  | cons q ps ih =>
    rw [insertById]
    split
    · exact .refl _
    · exact (ih.cons q).trans (.swap p q ps)

theorem sortById_perm (ps : List Passage) : (sortById ps).Perm ps := by
  induction ps with
  | nil => exact .refl _
  | cons p ps ih => exact (insertById_perm p _).trans (ih.cons p)

theorem ascending_insertById (p : Passage) (h : ps.Pairwise (·.id ≤ ·.id)) :
    (insertById p ps).Pairwise (·.id ≤ ·.id) := by
  induction ps with
  | nil => exact List.pairwise_singleton _ p
  | cons q ps ih =>
    obtain ⟨hq, hps⟩ := List.pairwise_cons.1 h
    rw [insertById]
    split
    · next hle =>
      refine List.pairwise_cons.2 ⟨?_, h⟩
      intro r hr
      rcases List.mem_cons.1 hr with rfl | hr
      · exact hle
      · exact UInt32.le_trans hle (hq r hr)
    · next hle =>
      refine List.pairwise_cons.2 ⟨?_, ih hps⟩
      intro r hr
      rcases List.mem_cons.1 ((insertById_perm p ps).mem_iff.1 hr) with rfl | hr
      · exact (UInt32.le_total q.id r.id).resolve_right hle
      · exact hq r hr

theorem ascending_sortById (ps : List Passage) : (sortById ps).Pairwise (·.id ≤ ·.id) := by
  induction ps with
  | nil => exact .nil
  | cons p ps ih => exact ascending_insertById p ih

/-- The order of the ids does not depend on the order of the passages. -/
theorem map_id_sortById_eq (h : ps.Perm qs) : (sortById ps).map (·.id) = (sortById qs).map (·.id) := by
  have hperm : (sortById ps).Perm (sortById qs) :=
    (sortById_perm ps).trans (h.trans (sortById_perm qs).symm)
  refine List.Perm.eq_of_pairwise ?_ (List.pairwise_map.2 (ascending_sortById ps))
    (List.pairwise_map.2 (ascending_sortById qs)) (hperm.map _)
  intro a b _ _ hab hba
  exact UInt32.le_antisymm hab hba

/-- Where each id stands once, sorting leaves no choice. -/
theorem sortById_eq (h : ps.Perm qs) (hnodup : (ps.map (·.id)).Nodup) : sortById ps = sortById qs := by
  have hperm : (sortById ps).Perm (sortById qs) :=
    (sortById_perm ps).trans (h.trans (sortById_perm qs).symm)
  refine List.Perm.eq_of_pairwise ?_ (ascending_sortById ps) (ascending_sortById qs) hperm
  intro p q hp hq hpq hqp
  have hpmem : p ∈ ps := (sortById_perm ps).mem_iff.1 hp
  have hqmem : q ∈ ps := h.mem_iff.2 ((sortById_perm qs).mem_iff.1 hq)
  exact List.inj_on_of_nodup_map hnodup hpmem hqmem (UInt32.le_antisymm hpq hqp)

/-! ## Gaps -/

/-- A gap is seen by the ids alone. -/
theorem firstGap_congr {k : Nat} (h : ps.map (·.id) = qs.map (·.id)) : firstGap k ps = firstGap k qs := by
  induction ps generalizing k qs with
  | nil => rw [List.map_eq_nil_iff.1 h.symm]
  | cons p ps ih =>
    cases qs with
    | nil => cases h
    | cons q qs =>
      obtain ⟨hid, hrest⟩ := List.cons.inj h
      have hid : p.id = q.id := hid
      rw [firstGap, firstGap, hid, ih hrest]

/-- Without a gap no two passages have one id. -/
theorem nodup_of_firstGap {k : Nat} (h : firstGap k ps = none) : (ps.map (·.id)).Nodup := by
  have hdense : (ps.map (·.id)).map UInt32.toNat = List.range' k ps.length := by
    rw [List.map_map]
    exact firstGap_eq_none_iff.1 h
  have hnodup : ((ps.map (·.id)).map UInt32.toNat).Nodup := hdense ▸ List.nodup_range'
  exact hnodup.of_map _

/-! ## Building -/

theorem build_of_gap {expected found : PassageId} (h : firstGap 1 (sortById ps) = some (expected, found))
    (start altStart : PassageId) : build ps start altStart = .error (.notDense expected found) := by
  unfold build
  dsimp only
  split
  · next hgap =>
    rw [h] at hgap
    cases hgap
    rfl
  · next hgap =>
    rw [h] at hgap
    cases hgap

/-- Without a gap it is the sorted passages that the starts and the links are checked against. -/
theorem build_of_dense {sorted : List Passage} (hsorted : sortById ps = sorted)
    (hgap : firstGap 1 sorted = none) (hne : ps ≠ []) (start altStart : PassageId) :
    build ps start altStart =
      if hs : IsIdBelow sorted.length start then
        if ha : IsIdBelow sorted.length altStart then
          if hd : danglingLinks sorted.length sorted = [] then
            .ok ⟨sorted, start, altStart, firstGap_eq_none_iff.1 hgap, hs, ha, danglingLinks_eq_nil_iff.1 hd⟩
          else .error (.dangling (danglingLinks sorted.length sorted))
        else .error (.invalidStart altStart)
      else .error (.invalidStart start) := by
  subst hsorted
  unfold build
  dsimp only
  split
  · next h =>
    rw [hgap] at h
    cases h
  · rw [if_neg hne]

/-- **A story does not depend on the order in which its passages are given**, nor does its defect. -/
theorem build_perm (h : ps.Perm qs) (start altStart : PassageId) :
    build ps start altStart = build qs start altStart := by
  have hgaps : firstGap 1 (sortById ps) = firstGap 1 (sortById qs) := firstGap_congr (map_id_sortById_eq h)
  cases hgap : firstGap 1 (sortById ps) with
  | some gap => rw [build_of_gap hgap, build_of_gap (hgaps ▸ hgap)]
  | none =>
    by_cases hne : ps = []
    · subst hne
      rw [List.nil_perm.1 h]
    · have hnodup : (ps.map (·.id)).Nodup := ((sortById_perm ps).map _).nodup_iff.1 (nodup_of_firstGap hgap)
      have hne' : qs ≠ [] := fun e => hne (List.perm_nil.1 (e ▸ h))
      rw [build_of_dense rfl hgap hne, build_of_dense (sortById_eq h hnodup).symm hgap hne']

end VisualNovel.Story
