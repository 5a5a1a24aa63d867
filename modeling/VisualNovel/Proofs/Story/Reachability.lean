/-
  VisualNovel.Proofs.Story.Reachability

  Which passages choices lead to. `Story.Leads` says it by chains of links; what
  may be followed is a condition on passages, as the search and the play differ
  in it (`leads_iff_or_beyond` says in what, `forall_leads_iff` when they do not).
  The search is exact for chains that stop at endings
  (`mem_reachableFrom_iff`): what it finds is led to, and it has found all once
  every link of a passage seen goes to another one seen or to one still queued.
-/

import VisualNovel.Proofs.Story.Lookup

namespace VisualNovel

namespace Story

variable {s : Story} {start id : PassageId}

/-! ## Chains of links -/

/-- Links lead from a start to an id, each of them from a passage that may be followed. -/
inductive Leads (s : Story) (follows : Passage → Bool) (start : PassageId) : PassageId → Prop
  | here : Leads s follows start start
  | link {id : PassageId} {p : Passage} {l : Link} (h : Leads s follows start id)
      (hp : s.get? id = some p) (hfollows : follows p = true) (hl : l ∈ p.links) :
      Leads s follows start l.targetId

theorem Leads.mono {f g : Passage → Bool} (h : s.Leads f start id) (hfg : ∀ p, f p = true → g p = true) :
    s.Leads g start id := by
  induction h with
  | here => exact .here
  | link _ hp hfollows hl ih => exact ih.link hp (hfg _ hfollows) hl

theorem Leads.trans {f : Passage → Bool} {mid : PassageId} (h : s.Leads f start mid) (h' : s.Leads f mid id) :
    s.Leads f start id := by
  induction h' with
  | here => exact h
  | link _ hp hfollows hl ih => exact ih.link hp hfollows hl

/-- If `g` may follow more than `f`, its chains are those of `f`, or they leave them at a passage that
only `g` may follow. -/
theorem leads_iff_or_beyond {f g : Passage → Bool} (hfg : ∀ p, f p = true → g p = true) :
    s.Leads g start id ↔ s.Leads f start id ∨
      ∃ p ∈ s.passages, (g p = true ∧ f p = false) ∧ s.Leads f start p.id ∧
        ∃ l ∈ p.links, s.Leads g l.targetId id := by
  constructor
  · intro h
    induction h with
    | here => exact .inl .here
    | @link _ p l _ hp hfollows hl ih =>
      rcases ih with hleads | ⟨q, hq, hexit, hleads, l', hl', hbeyond⟩
      · cases hf : f p with
        | true => exact .inl (hleads.link hp hf hl)
        | false =>
          obtain ⟨hmem, hid⟩ := mem_of_get?_eq_some hp
          exact .inr ⟨p, hmem, ⟨hfollows, hf⟩, hid ▸ hleads, l, hl, .here⟩
      · exact .inr ⟨q, hq, hexit, hleads, l', hl', hbeyond.link hp hfollows hl⟩
  · rintro (hleads | ⟨p, hp, ⟨hfollows, -⟩, hleads, l, hl, hbeyond⟩)
    · exact hleads.mono hfg
    · exact ((hleads.mono hfg).link (get?_of_mem hp) hfollows hl).trans hbeyond

/-- Chains of `g` lead nowhere else than chains of `f` exactly when `f` leads to all that is linked from
passages that only `g` may follow. -/
theorem forall_leads_iff {f g : Passage → Bool} (hfg : ∀ p, f p = true → g p = true) :
    (∀ id, s.Leads g start id → s.Leads f start id) ↔
      ∀ p ∈ s.passages, g p = true ∧ f p = false → s.Leads f start p.id →
        ∀ l ∈ p.links, s.Leads f start l.targetId := by
  constructor
  · intro h p hp hexit hleads l hl
    exact h _ ((hleads.mono hfg).link (get?_of_mem hp) hexit.1 hl)
  · intro h id hid
    induction hid with
    | here => exact .here
    | @link _ p l _ hp hfollows hl ih =>
      cases hf : f p with
      | true => exact ih.link hp hf hl
      | false =>
        obtain ⟨hmem, hid⟩ := mem_of_get?_eq_some hp
        exact h p hmem ⟨hfollows, hf⟩ (hid ▸ ih) l hl

theorem exists_get?_of_isId (h : IsIdBelow s.passages.length id) : ∃ p, s.get? id = some p := by
  cases hp : s.get? id with
  | some p => exact ⟨p, rfl⟩
  | none => exact absurd h (get?_eq_none_iff.1 hp)

/-- A link of the story leads to a passage. -/
theorem exists_get?_of_link {p : Passage} {l : Link} (hp : s.get? id = some p) (hl : l ∈ p.links) :
    ∃ q, s.get? l.targetId = some q :=
  exists_get?_of_isId (s.link_isId p (mem_passages_of_get? hp) l hl)

/-- What is led to from a passage is a passage. -/
theorem Leads.exists_get? {follows : Passage → Bool} (h : s.Leads follows start id)
    (hstart : IsIdBelow s.passages.length start) : ∃ p, s.get? id = some p := by
  cases h with
  | here => exact exists_get?_of_isId hstart
  | link _ hp _ hl => exact exists_get?_of_link hp hl

theorem mem_nextIds_iff {p : Passage} {j : PassageId} :
    j ∈ p.nextIds ↔ p.isEnding = false ∧ ∃ l ∈ p.links, l.targetId = j := by
  rw [Passage.nextIds]
  cases p.isEnding <;> simp

/-! ## The search -/

/-- What is seen once stays seen. -/
theorem mem_search_of_mem_seen {queue seen : List PassageId} (h : id ∈ seen) :
    id ∈ s.search queue seen := by
  fun_induction search s queue seen with
  | case1 => exact h
  | case2 _ _ _ _ ih => exact ih h
  | case3 _ _ _ _ _ _ ih => exact ih h
  | case4 _ _ _ _ _ _ ih => exact ih (List.mem_cons_of_mem _ h)

/-- What is queued is seen in the end, if there is such a passage. -/
theorem mem_search_of_mem_queue {queue seen : List PassageId} (h : id ∈ queue)
    {p : Passage} (hp : s.get? id = some p) : id ∈ s.search queue seen := by
  fun_induction search s queue seen with
  | case1 => cases h
  | case2 first queue seen hnone ih =>
    rcases List.mem_cons.1 h with rfl | h
    · rw [hp] at hnone
      cases hnone
    · exact ih h
  | case3 first queue seen q hq hseen ih =>
    rcases List.mem_cons.1 h with rfl | h
    · exact mem_search_of_mem_seen hseen
    · exact ih h
  | case4 first queue seen q hq hnew ih =>
    rcases List.mem_cons.1 h with rfl | h
    · exact mem_search_of_mem_seen List.mem_cons_self
    · exact ih (List.mem_append_left _ h)

/-- **Soundness.** What links keep holds of all that is seen. -/
theorem search_induction {P : PassageId → Prop}
    (hnext : ∀ id p, P id → s.get? id = some p → ∀ j ∈ p.nextIds, P j) {queue seen : List PassageId}
    (hqueue : ∀ id ∈ queue, P id) (hseen : ∀ id ∈ seen, P id) (h : id ∈ s.search queue seen) : P id := by
  fun_induction search s queue seen with
  | case1 => exact hseen id h
  | case2 _ _ _ _ ih => exact ih (List.forall_mem_cons.1 hqueue).2 hseen h
  | case3 _ _ _ _ _ _ ih => exact ih (List.forall_mem_cons.1 hqueue).2 hseen h
  | case4 first queue seen q hq hnew ih =>
    obtain ⟨hfirst, hrest⟩ := List.forall_mem_cons.1 hqueue
    apply ih
    · intro j hj
      rcases List.mem_append.1 hj with hj | hj
      · exact hrest j hj
      · exact hnext first q hfirst hq j hj
    · exact List.forall_mem_cons.2 ⟨hfirst, hseen⟩
    · exact h

/-- **Completeness.** If links from what is seen go to what is seen or queued, then in the end they
go to what is seen. -/
theorem search_closed {queue seen : List PassageId}
    (h : ∀ id ∈ seen, ∀ p, s.get? id = some p → ∀ j ∈ p.nextIds, j ∈ seen ∨ j ∈ queue) :
    ∀ id ∈ s.search queue seen, ∀ p, s.get? id = some p → ∀ j ∈ p.nextIds, j ∈ s.search queue seen := by
  fun_induction search s queue seen with
  | case1 seen =>
    intro id hid p hp j hj
    rcases h id hid p hp j hj with hj | hj
    · exact hj
    · cases hj
  | case2 first queue seen hnone ih =>
    apply ih
    intro id hid p hp j hj
    rcases h id hid p hp j hj with hj' | hj'
    · exact .inl hj'
    · rcases List.mem_cons.1 hj' with rfl | hj'
      · -- No link goes to an id that has no passage.
        obtain ⟨-, l, hl, rfl⟩ := mem_nextIds_iff.1 hj
        obtain ⟨q, hq⟩ := exists_get?_of_link hp hl
        rw [hnone] at hq
        cases hq
      · exact .inr hj'
  | case3 first queue seen q hq hseen ih =>
    apply ih
    intro id hid p hp j hj
    rcases h id hid p hp j hj with hj' | hj'
    · exact .inl hj'
    · rcases List.mem_cons.1 hj' with rfl | hj'
      · exact .inl hseen
      · exact .inr hj'
  | case4 first queue seen q hq hnew ih =>
    apply ih
    intro id hid p hp j hj
    rcases List.mem_cons.1 hid with rfl | hid
    · -- The links of the passage that is seen now were queued just before.
      rw [hq] at hp
      cases hp
      exact .inr (List.mem_append_right _ hj)
    · rcases h id hid p hp j hj with hj' | hj'
      · exact .inl (List.mem_cons_of_mem _ hj')
      · rcases List.mem_cons.1 hj' with rfl | hj'
        · exact .inl List.mem_cons_self
        · exact .inr (List.mem_append_left _ hj')

theorem mem_search_of_leads (hstart : IsIdBelow s.passages.length start)
    (h : s.Leads (fun p => !p.isEnding) start id) : id ∈ s.search [start] [] := by
  induction h with
  | here =>
    obtain ⟨p, hp⟩ := exists_get?_of_isId hstart
    exact mem_search_of_mem_queue List.mem_cons_self hp
  | link _ hp hfollows hl ih =>
    have hnext := mem_nextIds_iff.2 ⟨by simpa using hfollows, _, hl, rfl⟩
    exact search_closed (by simp) _ ih _ hp _ hnext

/-- **The search is exact.** It finds the ids that chains of links lead to, stopping at endings. -/
theorem mem_reachableFrom_iff (hstart : IsIdBelow s.passages.length start) :
    id ∈ s.reachableFrom start ↔ s.Leads (fun p => !p.isEnding) start id := by
  simp only [reachableFrom, List.mem_filter, decide_eq_true_eq]
  constructor
  · rintro ⟨-, hid⟩
    refine search_induction ?_ (List.forall_mem_singleton.2 .here) (by simp) hid
    intro id p h hp j hj
    obtain ⟨hend, l, hl, rfl⟩ := mem_nextIds_iff.1 hj
    exact h.link hp (by simp [hend]) hl
  · intro h
    obtain ⟨p, hp⟩ := h.exists_get? hstart
    obtain ⟨hpassage, hid⟩ := mem_of_get?_eq_some hp
    exact ⟨List.mem_map.2 ⟨p, hpassage, hid⟩, mem_search_of_leads hstart h⟩

end Story

end VisualNovel
