/-
  VisualNovel.Proofs.Story.Lookup

  Looking up passages: the ids that have one are exactly the numbers of the
  story (`exists_get_iff`), what is found is the passage of that id
  (`get_eq_ok_iff_mem`), and a passage is an ending exactly when its outcome is.
-/

import VisualNovel.Story.Reachable

namespace VisualNovel

/-! ## Outcomes -/

namespace Outcome

theorem mem_markers_of_ofTags {tags : NameSet} {o : Outcome} (h : ofTags tags = some o) :
    o ∈ markers :=
  List.mem_of_find?_eq_some h

end Outcome

theorem Passage.isEnding_eq_true_iff {p : Passage} :
    p.isEnding = true ↔ ∃ o, p.outcome = some o ∧ o.category = .ending := by
  rw [Passage.isEnding]
  cases p.outcome with
  | none => simp
  | some o => simp [Outcome.isEnding]

/-! ## Ids -/

namespace Story

/-- An id has no passage exactly when it is none of the story's numbers. -/
theorem get?_eq_none_iff {s : Story} {id : PassageId} :
    s.get? id = none ↔ ¬ IsIdBelow s.passages.length id := by
  have hzero : id = 0 ↔ id.toNat = 0 := by
    rw [← UInt32.toNat_inj]
    rfl
  rw [get?, IsIdBelow]
  split
  · next h => simp [hzero.1 h]
  · next h =>
    have hpos : id.toNat ≠ 0 := fun e => h (hzero.2 e)
    rw [List.getElem?_eq_none_iff]
    omega

theorem get_eq_ok_iff {s : Story} {id : PassageId} {p : Passage} :
    s.get id = .ok p ↔ s.get? id = some p := by
  rw [get]
  cases s.get? id with
  | none => simp
  | some q => simp

/-- Looking up fails only for a number that the story does not have, and says which. -/
theorem get_eq_error_iff {s : Story} {id : PassageId} {e : StoryError} :
    s.get id = .error e ↔ e = .notFound id ∧ ¬ IsIdBelow s.passages.length id := by
  rw [← get?_eq_none_iff, get]
  cases s.get? id with
  | none => simp [eq_comm]
  | some q => simp

theorem mem_passages_of_get? {s : Story} {id : PassageId} {p : Passage} (h : s.get? id = some p) :
    p ∈ s.passages :=
  (mem_of_get?_eq_some h).1

theorem get?_of_mem {s : Story} {p : Passage} (h : p ∈ s.passages) : s.get? p.id = some p := by
  obtain ⟨i, hi, rfl⟩ := List.getElem_of_mem h
  have hid : s.passages[i].id.toNat = 1 + i := by
    have hdense := congrArg (fun ids => ids[i]?) s.isDense
    rw [List.getElem?_map, List.getElem?_eq_getElem hi, List.getElem?_range' hi] at hdense
    simpa using hdense
  have hne : s.passages[i].id ≠ 0 := by
    intro hzero
    rw [hzero] at hid
    have : (0 : UInt32).toNat = 0 := rfl
    omega
  rw [get?, if_neg hne, hid, Nat.add_sub_cancel_left, List.getElem?_eq_getElem hi]

/-- Looking up finds the passages of the story, each under its id. -/
theorem get_eq_ok_iff_mem {s : Story} {id : PassageId} {p : Passage} :
    s.get id = .ok p ↔ p ∈ s.passages ∧ p.id = id := by
  rw [get_eq_ok_iff]
  constructor
  · exact mem_of_get?_eq_some
  · rintro ⟨hp, rfl⟩
    exact get?_of_mem hp

/-- Looking up succeeds exactly for the story's numbers. -/
theorem exists_get_iff {s : Story} {id : PassageId} :
    (∃ p, s.get id = .ok p) ↔ IsIdBelow s.passages.length id := by
  simp only [get_eq_ok_iff]
  cases h : s.get? id with
  | none => simpa using get?_eq_none_iff.1 h
  | some p =>
    have hid : IsIdBelow s.passages.length id :=
      Decidable.of_not_not fun hid => by simp [get?_eq_none_iff.2 hid] at h
    exact ⟨fun _ => hid, fun _ => ⟨p, rfl⟩⟩

/-- The passages stand in the order of their ids, each id once. -/
theorem pairwise_id (s : Story) : s.passages.Pairwise (·.id < ·.id) := by
  have hdense : (s.passages.map (·.id.toNat)).Pairwise (· < ·) := by
    rw [s.isDense]
    exact List.pairwise_lt_range'
  rw [List.pairwise_map] at hdense
  exact hdense.imp UInt32.lt_iff_toNat_lt.2

theorem nodup_passages (s : Story) : s.passages.Nodup := by
  apply s.pairwise_id.imp
  intro p q hlt heq
  exact UInt32.ne_of_lt hlt (congrArg Passage.id heq)

end Story

end VisualNovel
