/-
  VisualNovel.Proofs.Story.Search

  The search for what choices lead to, round by round. A round takes one id from the
  queue. What is still to come of a search, the ids queued and the links of the
  passages not yet seen, gets less with each round (`pending_round_lt`), so that the
  search ends after as many rounds as the story has links, and one (`repeat_round_eq`).
  What it has seen by then is at the end of a path of links that leaves no ending
  (`mem_reachableFrom_iff_exists_path`).
-/

import Mathlib.Algebra.GroupWithZero.Nat
import Mathlib.Algebra.Order.BigOperators.Group.List
import Mathlib.Algebra.Order.Group.Nat
import Mathlib.Data.List.Chain
import VisualNovel.Proofs.Story.Reachability

namespace VisualNovel

namespace Story

variable {s : Story} {start id : PassageId}

/-! ## Rounds -/

/-- Where a search stands: the ids to visit and the ids seen, latest first. -/
structure Frontier where
  queue : List PassageId
  seen : List PassageId

/-- One round of the search: the first id of the queue is visited. -/
def round (s : Story) : Frontier → Frontier
  | ⟨[], seen⟩ => ⟨[], seen⟩
  | ⟨id :: queue, seen⟩ =>
    match s.get? id with
    | none => ⟨queue, seen⟩
    | some p => if id ∈ seen then ⟨queue, seen⟩ else ⟨queue ++ p.nextIds, id :: seen⟩

/-- All that a round can do. -/
theorem round_cases (s : Story) (id : PassageId) (queue seen : List PassageId) :
    s.round ⟨id :: queue, seen⟩ = ⟨queue, seen⟩ ∧ (s.get? id = none ∨ id ∈ seen) ∨
    ∃ p, s.get? id = some p ∧ id ∉ seen ∧ s.round ⟨id :: queue, seen⟩ = ⟨queue ++ p.nextIds, id :: seen⟩ := by
  simp only [round]
  cases hp : s.get? id with
  | none => exact .inl ⟨rfl, .inl rfl⟩
  | some p =>
    by_cases hseen : id ∈ seen
    · exact .inl ⟨if_pos hseen, .inr hseen⟩
    · exact .inr ⟨p, rfl, hseen, if_neg hseen⟩

/-- A round is a part of the search. -/
theorem search_round (s : Story) (f : Frontier) :
    s.search (s.round f).queue (s.round f).seen = s.search f.queue f.seen := by
  obtain ⟨queue, seen⟩ := f
  cases queue with
  | nil => rfl
  | cons id queue =>
    rw [search]
    rcases s.round_cases id queue seen with ⟨hround, hnone | hseen⟩ | ⟨p, hp, hseen, hround⟩
    · rw [hround]
      split
      · rfl
      · next p hp => rw [hnone] at hp; cases hp
    · rw [hround]
      split
      · rfl
      · rw [dif_pos hseen]
    · rw [hround]
      split
      · next hnone => rw [hp] at hnone; cases hnone
      · next q hq =>
        rw [hp] at hq
        cases hq
        rw [dif_neg hseen]

theorem search_repeat_round (s : Story) (n : Nat) (f : Frontier) :
    s.search (Nat.repeat s.round n f).queue (Nat.repeat s.round n f).seen = s.search f.queue f.seen := by
  induction n with
  | zero => rfl
  | succ n ih => rw [Nat.repeat, search_round, ih]

/-! ## The end of the search -/

/-- What is still to come: the ids that are queued, and those that unseen passages lead to. -/
def pending (s : Story) (f : Frontier) : Nat :=
  f.queue.length + ((s.unseen f.seen).map (·.nextIds.length)).sum

/-- Number of links. -/
def linkCount (s : Story) : Nat :=
  (s.passages.map (·.links.length)).sum

/-- A passage that is seen leads to nothing new any more. -/
theorem sum_unseen_cons_le {p : Passage} {seen : List PassageId} (hp : p ∈ s.passages) (h : p.id ∉ seen) :
    p.nextIds.length + ((s.unseen (p.id :: seen)).map (·.nextIds.length)).sum ≤
      ((s.unseen seen).map (·.nextIds.length)).sum := by
  -- The unseen passages are those of this id and those that are still unseen afterwards.
  have hsplit := (List.filter_append_perm (fun q => decide (q.id = p.id)) (s.unseen seen)).map (·.nextIds.length)
  have hrest : (s.unseen seen).filter (fun q => !decide (q.id = p.id)) = s.unseen (p.id :: seen) := by
    simp only [unseen, List.filter_filter]
    apply List.filter_congr
    intro q _
    simp [List.mem_cons]
  have hmem : p ∈ (s.unseen seen).filter fun q => decide (q.id = p.id) := by simp [unseen, hp, h]
  have hle := List.le_sum_of_mem (List.mem_map_of_mem (f := (·.nextIds.length)) hmem)
  rw [hrest, List.map_append] at hsplit
  rw [← hsplit.sum_nat, List.sum_append]
  exact Nat.add_le_add_right hle _

/-- **One round.** There is less to come after it. -/
theorem pending_round_lt {f : Frontier} (h : f.queue ≠ []) : s.pending (s.round f) < s.pending f := by
  obtain ⟨queue, seen⟩ := f
  cases queue with
  | nil => exact absurd rfl h
  | cons id queue =>
    rcases s.round_cases id queue seen with ⟨hround, -⟩ | ⟨p, hp, hseen, hround⟩
    · rw [hround]
      simp only [pending, List.length_cons]
      omega
    · obtain ⟨hmem, rfl⟩ := mem_of_get?_eq_some hp
      have hsum := sum_unseen_cons_le hmem hseen
      rw [hround]
      simp only [pending, List.length_cons, List.length_append]
      omega

/-- **Some rounds.** The queue is empty, or each of them took something off. -/
theorem queue_repeat_round (s : Story) (n : Nat) (f : Frontier) :
    (Nat.repeat s.round n f).queue = [] ∨ s.pending (Nat.repeat s.round n f) + n ≤ s.pending f := by
  induction n with
  | zero => exact .inr (Nat.le_refl _)
  | succ n ih =>
    rw [Nat.repeat]
    generalize Nat.repeat s.round n f = g at ih ⊢
    by_cases hqueue : g.queue = []
    · obtain ⟨queue, seen⟩ := g
      subst hqueue
      exact .inl rfl
    · have hlt := s.pending_round_lt hqueue
      have hle := ih.resolve_left hqueue
      exact .inr (by omega)

theorem pending_start_le (s : Story) (start : PassageId) : s.pending ⟨[start], []⟩ ≤ 1 + s.linkCount := by
  have hnext : ∀ p : Passage, p.nextIds.length ≤ p.links.length := by
    intro p
    rw [Passage.nextIds]
    split
    · exact Nat.zero_le _
    · exact Nat.le_of_eq (List.length_map ..)
  have hunseen : s.unseen [] = s.passages := by simp [unseen]
  rw [pending, hunseen, linkCount]
  exact Nat.add_le_add_left (List.sum_le_sum fun p _ => hnext p) 1

/-- After as many rounds as there are links, and one, nothing is queued and all is seen. -/
theorem repeat_round_eq (s : Story) (start : PassageId) :
    Nat.repeat s.round (1 + s.linkCount) ⟨[start], []⟩ = ⟨[], s.search [start] []⟩ := by
  have hsearch := s.search_repeat_round (1 + s.linkCount) ⟨[start], []⟩
  have hqueue : (Nat.repeat s.round (1 + s.linkCount) ⟨[start], []⟩).queue = [] := by
    rcases s.queue_repeat_round (1 + s.linkCount) ⟨[start], []⟩ with hqueue | hle
    · exact hqueue
    · have hstart := s.pending_start_le start
      rw [← List.length_eq_zero_iff]
      simp only [pending] at hle hstart
      omega
  generalize Nat.repeat s.round (1 + s.linkCount) ⟨[start], []⟩ = f at hsearch hqueue
  obtain ⟨queue, seen⟩ := f
  subst hqueue
  rw [← hsearch]
  simp only [search]

/-! ## Paths -/

/-- A path through a story: from each passage but the last, which is no ending, a link leads to the next. -/
structure IsPath (s : Story) (path : List Passage) : Prop where
  mem : ∀ p ∈ path, p ∈ s.passages
  links : path.IsChain fun p q => p.isEnding = false ∧ ∃ l ∈ p.links, l.targetId = q.id

/-- A path leads from one id to another. -/
structure Joins (s : Story) (start id : PassageId) (path : List Passage) : Prop extends s.IsPath path where
  head : path.head?.map (·.id) = some start
  last : path.getLast?.map (·.id) = some id

/-- A path goes on along a link of its last passage. -/
theorem Joins.snoc {path : List Passage} {p q : Passage} {l : Link} (h : s.Joins start p.id path)
    (hp : p ∈ s.passages) (hend : p.isEnding = false) (hl : l ∈ p.links) (hq : q ∈ s.passages)
    (hid : q.id = l.targetId) : s.Joins start q.id (path ++ [q]) where
  mem := by
    intro r hr
    rcases List.mem_append.1 hr with hr | hr
    · exact h.mem r hr
    · exact List.mem_singleton.1 hr ▸ hq
  links := by
    apply h.links.append (.singleton q)
    intro r hr q' hq'
    -- The last passage has the id of `p`, so it is `p`.
    have hid' : r.id = p.id := by
      have hlast := h.last
      rw [Option.mem_def.1 hr] at hlast
      exact Option.some.inj hlast
    have heq := get?_of_mem (h.mem r (List.mem_of_getLast? hr))
    rw [hid', get?_of_mem hp] at heq
    obtain rfl := Option.some.inj heq
    obtain rfl := Option.some.inj hq'
    exact ⟨hend, l, hl, hid.symm⟩
  head := by
    obtain ⟨r, hr, hid'⟩ := Option.map_eq_some_iff.1 h.head
    rw [List.head?_append, hr]
    exact congrArg some hid'
  last := by
    rw [List.getLast?_append]
    rfl

theorem exists_joins_of_leads (hstart : IsIdBelow s.passages.length start)
    (h : s.Leads (fun p => !p.isEnding) start id) : ∃ path, s.Joins start id path := by
  induction h with
  | here =>
    obtain ⟨p, hp⟩ := exists_get?_of_isId hstart
    obtain ⟨hmem, hid⟩ := mem_of_get?_eq_some hp
    exact ⟨[p], ⟨⟨List.forall_mem_singleton.2 hmem, .singleton p⟩, congrArg some hid, congrArg some hid⟩⟩
  | link _ hp hend hl ih =>
    obtain ⟨path, hpath⟩ := ih
    obtain ⟨q, hq⟩ := exists_get?_of_link hp hl
    obtain ⟨hpmem, rfl⟩ := mem_of_get?_eq_some hp
    obtain ⟨hqmem, hid⟩ := mem_of_get?_eq_some hq
    exact ⟨path ++ [q], hid ▸ hpath.snoc hpmem (by simpa using hend) hl hqmem hid⟩

/-- Whatever leads to the first passage of a path leads to its last one. -/
theorem IsPath.leads {path : List Passage} {p q : Passage} (h : s.IsPath (p :: path))
    (hlast : (p :: path).getLast? = some q) (hp : s.Leads (fun p => !p.isEnding) start p.id) :
    s.Leads (fun p => !p.isEnding) start q.id := by
  induction path generalizing p with
  | nil =>
    cases hlast
    exact hp
  | cons r path ih =>
    obtain ⟨⟨hend, l, hl, hid⟩, hlinks⟩ := List.isChain_cons_cons.1 h.links
    obtain ⟨hpmem, hmem⟩ := List.forall_mem_cons.1 h.mem
    apply ih ⟨hmem, hlinks⟩ hlast
    exact hid ▸ hp.link (get?_of_mem hpmem) (by simp [hend]) hl

theorem leads_of_joins {path : List Passage} (h : s.Joins start id path) :
    IsIdBelow s.passages.length start ∧ s.Leads (fun p => !p.isEnding) start id := by
  cases path with
  | nil => cases h.head
  | cons p path =>
    have hstart : p.id = start := Option.some.inj h.head
    obtain ⟨q, hq, rfl⟩ := Option.map_eq_some_iff.1 h.last
    refine ⟨exists_get_iff.1 ⟨p, get_eq_ok_iff_mem.2 ⟨h.mem p List.mem_cons_self, hstart⟩⟩, ?_⟩
    exact h.toIsPath.leads hq (hstart ▸ .here)

/-! ## What is found -/

/-- Only passages are seen. -/
theorem isId_of_mem_search {queue seen : List PassageId}
    (hseen : ∀ id ∈ seen, IsIdBelow s.passages.length id) (h : id ∈ s.search queue seen) :
    IsIdBelow s.passages.length id := by
  fun_induction search s queue seen with
  | case1 => exact hseen id h
  | case2 _ _ _ _ ih => exact ih hseen h
  | case3 _ _ _ _ _ _ ih => exact ih hseen h
  | case4 first queue seen p hp _ ih =>
    have hfirst : IsIdBelow s.passages.length first := exists_get_iff.1 ⟨p, get_eq_ok_iff.2 hp⟩
    exact ih (List.forall_mem_cons.2 ⟨hfirst, hseen⟩) h

/-- What is seen in the end is what is found. -/
theorem mem_reachableFrom_iff_mem_search : id ∈ s.reachableFrom start ↔ id ∈ s.search [start] [] := by
  simp only [reachableFrom, List.mem_filter, decide_eq_true_eq]
  constructor
  · exact And.right
  · intro h
    obtain ⟨p, hp⟩ := exists_get?_of_isId (isId_of_mem_search (by simp) h)
    obtain ⟨hmem, hid⟩ := mem_of_get?_eq_some hp
    exact ⟨List.mem_map.2 ⟨p, hmem, hid⟩, h⟩

/-- From an id without a passage nothing is seen. -/
theorem search_of_get?_eq_none (h : s.get? start = none) : s.search [start] [] = [] := by
  rw [search]
  split
  · rw [search]
  · next p hp => simp [h] at hp

theorem mem_reachableFrom_iff_exists_path :
    id ∈ s.reachableFrom start ↔ ∃ path, s.Joins start id path := by
  by_cases hstart : IsIdBelow s.passages.length start
  · rw [mem_reachableFrom_iff hstart]
    constructor
    · exact exists_joins_of_leads hstart
    · rintro ⟨path, hpath⟩
      exact (leads_of_joins hpath).2
  · -- Without a passage to begin with there is no path, and nothing is seen.
    have hnone : s.get? start = none := get?_eq_none_iff.2 hstart
    constructor
    · intro h
      rw [mem_reachableFrom_iff_mem_search, search_of_get?_eq_none hnone] at h
      cases h
    · rintro ⟨path, hpath⟩
      exact absurd (leads_of_joins hpath).1 hstart

theorem ascending_reachableFrom (s : Story) (start : PassageId) :
    (s.reachableFrom start).Pairwise (· < ·) := by
  apply List.Pairwise.filter
  exact List.pairwise_map.2 s.pairwise_id

theorem reachableFrom_of_isEnding {p : Passage} (hp : s.get start = .ok p) (hend : p.isEnding = true) :
    s.reachableFrom start = [start] := by
  have hseen : s.search [start] [] = [start] := by
    have hnext : p.nextIds = [] := if_pos hend
    have hround : s.round ⟨[start], []⟩ = ⟨[], [start]⟩ := by simp [round, get_eq_ok_iff.1 hp, hnext]
    have hsearch := s.search_round ⟨[start], []⟩
    rw [hround, search] at hsearch
    exact hsearch.symm
  have hnodup : (s.reachableFrom start).Nodup := (s.ascending_reachableFrom start).imp UInt32.ne_of_lt
  apply List.perm_singleton.1
  rw [List.perm_ext_iff_of_nodup hnodup (List.pairwise_singleton ..)]
  intro id
  rw [mem_reachableFrom_iff_mem_search, hseen]

theorem reachableFrom_of_not_isId (h : ¬ IsIdBelow s.passages.length start) : s.reachableFrom start = [] := by
  rw [List.eq_nil_iff_forall_not_mem]
  intro id hid
  rw [mem_reachableFrom_iff_mem_search, search_of_get?_eq_none (get?_eq_none_iff.2 h)] at hid
  cases hid

/--
**The search ends, and it is exact.** In every story and from every id the queue is empty after one
round more than there are links, and what is seen by then is what is found. It is each id, once and
in order, that a path leads to from the start: that one alone from an ending, and none from an id
without a passage.
-/
theorem reachableFrom_exact (s : Story) (start : PassageId) :
    (∃ seen, Nat.repeat s.round (1 + s.linkCount) ⟨[start], []⟩ = ⟨[], seen⟩ ∧
      ∀ id, id ∈ s.reachableFrom start ↔ id ∈ seen) ∧
    (∀ id, id ∈ s.reachableFrom start ↔ ∃ path, s.Joins start id path) ∧
    (s.reachableFrom start).Pairwise (· < ·) ∧
    (∀ p, s.get start = .ok p → p.isEnding = true → s.reachableFrom start = [start]) ∧
    (¬ IsIdBelow s.passages.length start → s.reachableFrom start = []) := by
  refine ⟨⟨s.search [start] [], s.repeat_round_eq start, ?_⟩, ?_, s.ascending_reachableFrom start, ?_, ?_⟩
  · exact fun _ => mem_reachableFrom_iff_mem_search
  · exact fun _ => mem_reachableFrom_iff_exists_path
  · exact fun _ hp hend => reachableFrom_of_isEnding hp hend
  · exact reachableFrom_of_not_isId

end Story

end VisualNovel
