/-
  VisualNovel.Story.Reachable

  The passages that choices lead to. The search keeps a queue of ids to visit
  and the ids seen so far; an ending is reached but its links are not followed,
  since the play leaves the story there. Each step either shortens the queue or
  marks one more passage as seen, so the search ends.
-/

import VisualNovel.Story.Basic

namespace VisualNovel

/-- The ids that a passage's choices lead to; none from an ending. -/
def Passage.nextIds (p : Passage) : List PassageId :=
  if p.isEnding then [] else p.links.map (·.targetId)

namespace Story

/-- The passages that are not among some ids. -/
def unseen (s : Story) (seen : List PassageId) : List Passage :=
  s.passages.filter fun p => p.id ∉ seen

theorem length_unseen_cons_lt {s : Story} {seen : List PassageId} {p : Passage}
    (hp : p ∈ s.passages) (h : p.id ∉ seen) :
    (s.unseen (p.id :: seen)).length < (s.unseen seen).length := by
  have hsub : s.unseen (p.id :: seen) = (s.unseen seen).filter fun q => q.id ≠ p.id := by
    simp only [unseen, List.filter_filter]
    apply List.filter_congr
    intro q _
    simp [List.mem_cons]
  have hmem : p ∈ s.unseen seen := by simp [unseen, hp, h]
  rw [hsub]
  exact List.length_filter_lt_length_iff_exists.2 ⟨p, hmem, by simp⟩

theorem mem_of_get?_eq_some {s : Story} {id : PassageId} {p : Passage} (h : s.get? id = some p) :
    p ∈ s.passages ∧ p.id = id := by
  unfold get? at h
  split at h
  · cases h
  · next hid =>
    refine ⟨List.mem_of_getElem? h, ?_⟩
    have hmap := congrArg (fun l => l[id.toNat - 1]?) s.isDense
    simp only [List.getElem?_map, h, Option.map_some] at hmap
    obtain ⟨hlt, -⟩ := List.getElem?_eq_some_iff.1 h
    rw [List.getElem?_range' hlt] at hmap
    have hpos : id.toNat ≠ 0 := fun e => hid (UInt32.toNat_inj.1 (by simpa using e))
    have : p.id.toNat = id.toNat := by
      have := Option.some.inj hmap
      omega
    exact UInt32.toNat_inj.1 this

/-- Visits the ids of a queue and those they lead to; the ids seen, latest first. -/
def search (s : Story) : (queue seen : List PassageId) → List PassageId
  | [], seen => seen
  | id :: queue, seen =>
    match _hget : s.get? id with
    | none => search s queue seen
    | some p =>
      if _hnew : id ∈ seen then search s queue seen
      else search s (queue ++ p.nextIds) (id :: seen)
termination_by queue seen => ((s.unseen seen).length, queue.length)
decreasing_by
  · exact Prod.Lex.right _ (Nat.lt_succ_self _)
  · exact Prod.Lex.right _ (Nat.lt_succ_self _)
  · obtain ⟨hp, hid⟩ := mem_of_get?_eq_some _hget
    subst hid
    exact Prod.Lex.left _ _ (length_unseen_cons_lt hp _hnew)

/-- The ids that choices lead to from an id, itself included, in ascending order. -/
def reachableFrom (s : Story) (id : PassageId) : List PassageId :=
  let seen := s.search [id] []
  (s.passages.map (·.id)).filter fun id => id ∈ seen

end Story

end VisualNovel
