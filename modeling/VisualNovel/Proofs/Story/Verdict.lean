/-
  VisualNovel.Proofs.Story.Verdict

  Which passages make a story, and what is reported of others. `Verdict` says it
  without sorting and searching: whether the ids are the numbers from 1 on, what the
  first id out of place is (`IsFirstGap`), and which links lead nowhere (`Reports`).
  Building follows the verdict (`Verdict.build_eq`), and there always is one
  (`exists_verdict`).
-/

import VisualNovel.Proofs.Story.Building
import VisualNovel.Proofs.Story.Lookup

namespace VisualNovel

/-! ## The smallest numbers of a list -/

/-- A number is the `k`-th smallest, counted from 1: fewer than `k` are smaller, at least `k` are no greater. -/
def IsNth (xs : List Nat) (k x : Nat) : Prop :=
  x ∈ xs ∧ xs.countP (· < x) < k ∧ k ≤ xs.countP (· ≤ x)

namespace IsNth

variable {xs ys : List Nat} {k x y : Nat}

theorem perm_iff (h : xs.Perm ys) : IsNth xs k x ↔ IsNth ys k x := by
  rw [IsNth, IsNth, h.mem_iff, h.countP_eq, h.countP_eq]

theorem le_of_isNth (hx : IsNth xs k x) (hy : IsNth xs k y) : y ≤ x := by
  apply Nat.le_of_not_lt
  intro hlt
  -- All that is not above `x` is below `y`, so `y` would follow `k` numbers at least.
  have hcount : xs.countP (· ≤ x) ≤ xs.countP (· < y) := by
    apply List.countP_mono_left
    intro z _ hz
    exact decide_eq_true (Nat.lt_of_le_of_lt (of_decide_eq_true hz) hlt)
  have hle := hx.2.2
  have hlt' := hy.2.1
  omega

theorem unique (hx : IsNth xs k x) (hy : IsNth xs k y) : x = y :=
  Nat.le_antisymm (hy.le_of_isNth hx) (hx.le_of_isNth hy)

/-- What stands between smaller and greater numbers is counted by those in front of it. -/
theorem append_cons {before after : List Nat} (h : (before ++ x :: after).Pairwise (· ≤ ·)) :
    IsNth (before ++ x :: after) (before.length + 1) x := by
  rw [List.pairwise_append, List.pairwise_cons] at h
  obtain ⟨-, ⟨hafter, -⟩, hbefore⟩ := h
  have hbelow : after.countP (· < x) = 0 := by
    rw [List.countP_eq_zero]
    intro z hz
    simpa using hafter z hz
  have hupto : before.countP (· ≤ x) = before.length := by
    rw [List.countP_eq_length]
    intro z hz
    exact decide_eq_true (hbefore z hz x List.mem_cons_self)
  refine ⟨List.mem_append_right _ List.mem_cons_self, ?_, ?_⟩
  · rw [List.countP_append, List.countP_cons_of_neg (by simp), hbelow]
    exact Nat.lt_succ_of_le List.countP_le_length
  · rw [List.countP_append, List.countP_cons_of_pos (by simp), hupto]
    omega

/-- In ascending order the `k`-th smallest number is the `k`-th one. -/
theorem of_ascending (h : xs.Pairwise (· ≤ ·)) {i : Nat} (hi : i < xs.length) : IsNth xs (i + 1) xs[i] := by
  have hsplit : xs.take i ++ xs[i] :: xs.drop (i + 1) = xs := by
    rw [List.getElem_cons_drop, List.take_append_drop]
  have hnth := append_cons (hsplit.symm ▸ h)
  rwa [hsplit, List.length_take_of_le (Nat.le_of_lt hi)] at hnth

end IsNth

/-! ## Links that lead nowhere -/

/-- A link of a passage, at its place among the links of that passage. -/
structure PlacedLink where
  passage : Passage
  position : Nat
  link : Link

namespace PlacedLink

/-- Links in the order of the passages' ids, and of one passage in their own order. -/
def Before (a b : PlacedLink) : Prop :=
  a.passage.id < b.passage.id ∨ (a.passage.id = b.passage.id ∧ a.position < b.position)

/-- What is reported of a link. -/
def report (a : PlacedLink) : DanglingLink :=
  ⟨a.passage.id, a.link.label, a.link.targetId⟩

/-- The link stands at its place in one of the passages, and leads to no number of them. -/
def IsDangling (ps : List Passage) (a : PlacedLink) : Prop :=
  a.passage ∈ ps ∧ a.passage.links[a.position]? = some a.link ∧ ¬ IsIdBelow ps.length a.link.targetId

theorem Before.asymm {a b : PlacedLink} (h : a.Before b) : ¬ b.Before a := by
  rintro h'
  simp only [Before, UInt32.lt_iff_toNat_lt, ← UInt32.toNat_inj] at h h'
  omega

end PlacedLink

/-- The report has each link that leads nowhere, once and in order. -/
def Reports (ps : List Passage) (links : List DanglingLink) : Prop :=
  ∃ places : List PlacedLink, places.Pairwise PlacedLink.Before ∧
    (∀ a, a ∈ places ↔ a.IsDangling ps) ∧ links = places.map PlacedLink.report

theorem Reports.unique {ps : List Passage} {links links' : List DanglingLink} (h : Reports ps links)
    (h' : Reports ps links') : links = links' := by
  obtain ⟨places, hbefore, hmem, rfl⟩ := h
  obtain ⟨places', hbefore', hmem', rfl⟩ := h'
  have hirrefl : ∀ {a b : PlacedLink}, a.Before b → a ≠ b := by
    rintro a b hab rfl
    exact hab.asymm hab
  have hperm : places.Perm places' := by
    rw [List.perm_ext_iff_of_nodup (hbefore.imp hirrefl) (hbefore'.imp hirrefl)]
    intro a
    rw [hmem, hmem']
  have heq : places = places' :=
    hperm.eq_of_pairwise (fun _ _ _ _ hab hba => absurd hba hab.asymm) hbefore hbefore'
  rw [heq]

namespace Story

variable {ps : List Passage}

/-- The links of a passage that lead out of the numbers from 1 to `n`, at their places. -/
def placesIn (n : Nat) (p : Passage) : List PlacedLink :=
  (p.links.zipIdx.filter fun l => ¬ IsIdBelow n l.1.targetId).map fun l => ⟨p, l.2, l.1⟩

theorem mem_placesIn {n : Nat} {p : Passage} {a : PlacedLink} :
    a ∈ placesIn n p ↔
      a.passage = p ∧ p.links[a.position]? = some a.link ∧ ¬ IsIdBelow n a.link.targetId := by
  obtain ⟨q, position, link⟩ := a
  simp only [placesIn, List.mem_map, List.mem_filter, List.mem_zipIdx_iff_getElem?, decide_eq_true_eq]
  constructor
  · rintro ⟨⟨l, i⟩, ⟨hl, htarget⟩, heq⟩
    cases heq
    exact ⟨rfl, hl, htarget⟩
  · rintro ⟨rfl, hl, htarget⟩
    exact ⟨(link, position), ⟨hl, htarget⟩, rfl⟩

theorem pairwise_placesIn (n : Nat) (p : Passage) : (placesIn n p).Pairwise PlacedLink.Before := by
  have hpositions : p.links.zipIdx.Pairwise fun l m => l.2 < m.2 := by
    rw [← List.pairwise_map (f := Prod.snd), List.zipIdx_map_snd]
    exact List.pairwise_lt_range'
  rw [placesIn, List.pairwise_map]
  exact (hpositions.filter _).imp fun h => .inr ⟨rfl, h⟩

theorem map_report_placesIn (n : Nat) (p : Passage) : (placesIn n p).map PlacedLink.report =
    (p.links.filter fun l => ¬ IsIdBelow n l.targetId).map fun l => ⟨p.id, l.label, l.targetId⟩ := by
  conv_rhs => rw [← List.zipIdx_map_fst 0 p.links]
  rw [List.filter_map, List.map_map, placesIn, List.map_map]
  rfl

/-- The links of passages in strictly ascending order are reported in order. -/
theorem reports_danglingLinks {sorted : List Passage} (hperm : sorted.Perm ps)
    (hsorted : sorted.Pairwise (·.id < ·.id)) : Reports ps (danglingLinks ps.length sorted) := by
  refine ⟨sorted.flatMap (placesIn ps.length), ?_, ?_, ?_⟩
  · rw [List.pairwise_flatMap]
    refine ⟨fun p _ => pairwise_placesIn ps.length p, hsorted.imp ?_⟩
    intro p q hpq a ha b hb
    obtain ⟨rfl, -⟩ := mem_placesIn.1 ha
    obtain ⟨rfl, -⟩ := mem_placesIn.1 hb
    exact .inl hpq
  · intro a
    simp only [List.mem_flatMap, mem_placesIn, hperm.mem_iff, PlacedLink.IsDangling]
    constructor
    · rintro ⟨p, hp, rfl, hlink⟩
      exact ⟨hp, hlink⟩
    · rintro ⟨hp, hlink⟩
      exact ⟨a.passage, hp, rfl, hlink⟩
  · rw [List.map_flatMap, danglingLinks]
    simp only [map_report_placesIn]

/-! ## Numbers of passages -/

/-- The ids are the numbers from 1 on, each once. -/
def IsNumbered (ps : List Passage) : Prop :=
  (ps.map (·.id.toNat)).Perm (List.range' 1 ps.length)

/-- The first number that is not the id in its place, and the id that is found there. -/
structure IsFirstGap (ps : List Passage) (expected found : PassageId) : Prop where
  isNth : IsNth (ps.map (·.id.toNat)) expected.toNat found.toNat
  ne : found ≠ expected
  /-- Before it each id is in its place. -/
  least : ∀ k id, k < expected.toNat → IsNth (ps.map (·.id.toNat)) k id → id = k

theorem IsFirstGap.expected_le {e e' f f' : PassageId} (h : IsFirstGap ps e f) (h' : IsFirstGap ps e' f') :
    e.toNat ≤ e'.toNat := by
  apply Nat.le_of_not_lt
  intro hlt
  exact h'.ne (UInt32.toNat_inj.1 (h.least _ _ hlt h'.isNth))

theorem IsFirstGap.unique {e e' f f' : PassageId} (h : IsFirstGap ps e f) (h' : IsFirstGap ps e' f') :
    e = e' ∧ f = f' := by
  have he : e = e' := UInt32.toNat_inj.1 (Nat.le_antisymm (h.expected_le h') (h'.expected_le h))
  subst he
  exact ⟨rfl, UInt32.toNat_inj.1 (h.isNth.unique h'.isNth)⟩

/-- The ids ascend once the passages are sorted. -/
theorem ascending_ids (ps : List Passage) : ((sortById ps).map (·.id.toNat)).Pairwise (· ≤ ·) := by
  rw [List.pairwise_map]
  exact (ascending_sortById ps).imp UInt32.le_iff_toNat_le.1

/-- There is no gap exactly if the ids are the numbers from 1 on. -/
theorem firstGap_sortById_eq_none_iff : firstGap 1 (sortById ps) = none ↔ IsNumbered ps := by
  have hperm := (sortById_perm ps).map (·.id.toNat)
  rw [firstGap_eq_none_iff, (sortById_perm ps).length_eq, IsNumbered]
  constructor
  · intro h
    exact h ▸ hperm.symm
  · intro h
    apply (hperm.trans h).eq_of_pairwise _ (ascending_ids ps) (List.pairwise_le_range' ..)
    intro a b _ _ hab hba
    exact Nat.le_antisymm hab hba

/-- A gap is at the first place where counting up from `k` fails. -/
theorem exists_of_firstGap {k : Nat} {e f : PassageId} (h : firstGap k ps = some (e, f)) :
    ∃ (i : Nat) (hi : i < ps.length), e = UInt32.ofNat (k + i) ∧ f = ps[i].id ∧ ps[i].id.toNat ≠ k + i ∧
      ∀ (j : Nat) (hj : j < i), ps[j].id.toNat = k + j := by
  induction ps generalizing k with
  | nil => cases h
  | cons p ps ih =>
    rw [firstGap] at h
    split at h
    · next hp =>
      obtain ⟨i, hi, he, hf, hne, hbefore⟩ := ih h
      have hk : k + 1 + i = k + (i + 1) := by omega
      refine ⟨i + 1, Nat.succ_lt_succ hi, hk ▸ he, hf, hk ▸ hne, ?_⟩
      intro j hj
      cases j with
      | zero => exact hp
      | succ j =>
        have hj' := hbefore j (Nat.lt_of_succ_lt_succ hj)
        rw [List.getElem_cons_succ, hj']
        omega
    · next hp =>
      cases h
      exact ⟨0, Nat.zero_lt_succ _, rfl, rfl, hp, fun j hj => absurd hj (Nat.not_lt_zero j)⟩

/-- The gap that the search finds is the first one, provided that the numbers fit. -/
theorem isFirstGap_of_firstGap (hlt : ps.length < UInt32.size) {e f : PassageId}
    (h : firstGap 1 (sortById ps) = some (e, f)) : IsFirstGap ps e f := by
  obtain ⟨i, hi, rfl, rfl, hne, hbefore⟩ := exists_of_firstGap h
  have hlength := (sortById_perm ps).length_eq
  have hexpected : (UInt32.ofNat (1 + i)).toNat = i + 1 := by
    rw [UInt32.toNat_ofNat_of_lt' (by omega), Nat.add_comm]
  have hnth : ∀ (j : Nat) (hj : j < (sortById ps).length),
      IsNth (ps.map (·.id.toNat)) (j + 1) (sortById ps)[j].id.toNat := by
    intro j hj
    rw [← IsNth.perm_iff ((sortById_perm ps).map _)]
    have := IsNth.of_ascending (ascending_ids ps) (by rwa [List.length_map])
    rwa [List.getElem_map] at this
  refine ⟨hexpected ▸ hnth i hi, ?_, ?_⟩
  · intro heq
    rw [heq, hexpected] at hne
    omega
  · intro k id hk hid
    -- No number is the smallest but zero; those after it are all in their places.
    cases k with
    | zero => exact absurd hid.2.1 (Nat.not_lt_zero _)
    | succ j =>
      rw [hexpected] at hk
      have hj : j < i := Nat.lt_of_succ_lt_succ hk
      rw [hid.unique (hnth j (Nat.lt_trans hj hi)), hbefore j hj, Nat.add_comm]

/-! ## Stories made of passages -/

/-- The story is made of the passages and begins at the starts. -/
structure MadeOf (s : Story) (ps : List Passage) (start altStart : PassageId) : Prop where
  start_eq : s.start = start
  altStart_eq : s.altStart = altStart
  /-- An id has a passage exactly if it is one of the numbers from 1 on. -/
  exists_get_iff : ∀ id, (∃ p, s.get id = .ok p) ↔ IsIdBelow ps.length id
  /-- What is found is the passage that was given with the id. -/
  get_eq_ok_iff : ∀ id p, s.get id = .ok p ↔ p ∈ ps ∧ p.id = id
  /-- Every link leads to a passage. -/
  exists_get_link : ∀ p ∈ s.passages, ∀ l ∈ p.links, ∃ q, s.get l.targetId = .ok q

theorem madeOf_of_perm {s : Story} (h : s.passages.Perm ps) : s.MadeOf ps s.start s.altStart where
  start_eq := rfl
  altStart_eq := rfl
  exists_get_iff id := by rw [exists_get_iff, h.length_eq]
  get_eq_ok_iff id p := by rw [get_eq_ok_iff_mem, h.mem_iff]
  exists_get_link p hp l hl := exists_get_iff.2 (s.link_isId p hp l hl)

/-- Passages and starts make one story only. -/
theorem MadeOf.unique {s s' : Story} {start altStart : PassageId} (h : s.MadeOf ps start altStart)
    (h' : s'.MadeOf ps start altStart) : s = s' := by
  have hmem : ∀ {t : Story}, t.MadeOf ps start altStart → ∀ p, p ∈ t.passages ↔ p ∈ ps := by
    intro t ht p
    have hp := ht.get_eq_ok_iff p.id p
    simpa only [get_eq_ok_iff_mem, and_true] using hp
  have hperm : s.passages.Perm s'.passages := by
    rw [List.perm_ext_iff_of_nodup s.nodup_passages s'.nodup_passages]
    intro p
    rw [hmem h, hmem h']
  have hpassages : s.passages = s'.passages :=
    hperm.eq_of_pairwise (fun _ _ _ _ hpq hqp => absurd hqp (UInt32.lt_asymm hpq)) s.pairwise_id
      s'.pairwise_id
  have hstart := h.start_eq.trans h'.start_eq.symm
  have haltStart := h.altStart_eq.trans h'.altStart_eq.symm
  cases s
  cases s'
  cases hpassages
  cases hstart
  cases haltStart
  rfl

/-! ## The verdict -/

/-- What becomes of passages and starts: a story, or a report of the first kind of defect. -/
inductive Verdict (ps : List Passage) (start altStart : PassageId) : Except StoryError Story → Prop
  | empty (h : ps = []) : Verdict ps start altStart (.error .empty)
  | notDense {expected found : PassageId} (hne : ps ≠ []) (hids : ¬ IsNumbered ps)
      (hgap : IsFirstGap ps expected found) : Verdict ps start altStart (.error (.notDense expected found))
  | invalidStart (hne : ps ≠ []) (hids : IsNumbered ps) (hstart : ¬ IsIdBelow ps.length start) :
      Verdict ps start altStart (.error (.invalidStart start))
  | invalidAltStart (hne : ps ≠ []) (hids : IsNumbered ps) (hstart : IsIdBelow ps.length start)
      (halt : ¬ IsIdBelow ps.length altStart) : Verdict ps start altStart (.error (.invalidStart altStart))
  | dangling {links : List DanglingLink} (hne : ps ≠ []) (hids : IsNumbered ps)
      (hstart : IsIdBelow ps.length start) (halt : IsIdBelow ps.length altStart)
      (hlinks : ∃ p ∈ ps, ∃ l ∈ p.links, ¬ IsIdBelow ps.length l.targetId) (hreport : Reports ps links) :
      Verdict ps start altStart (.error (.dangling links))
  | story {s : Story} (hne : ps ≠ []) (hids : IsNumbered ps) (hstart : IsIdBelow ps.length start)
      (halt : IsIdBelow ps.length altStart)
      (hlinks : ∀ p ∈ ps, ∀ l ∈ p.links, IsIdBelow ps.length l.targetId)
      (hs : s.MadeOf ps start altStart) : Verdict ps start altStart (.ok s)

variable {start altStart : PassageId} {r : Except StoryError Story}

/-- Without a gap the sorted passages ascend strictly. -/
theorem strictlyAscending_sortById (h : IsNumbered ps) : (sortById ps).Pairwise (·.id < ·.id) := by
  have hdense := firstGap_eq_none_iff.1 (firstGap_sortById_eq_none_iff.2 h)
  have hids : ((sortById ps).map (·.id.toNat)).Pairwise (· < ·) := by
    rw [hdense]
    exact List.pairwise_lt_range'
  rw [List.pairwise_map] at hids
  exact hids.imp UInt32.lt_iff_toNat_lt.2

/-- Among sorted passages there is a link that leads nowhere if there is one at all. -/
theorem danglingLinks_sortById_eq_nil_iff : danglingLinks ps.length (sortById ps) = [] ↔
    ∀ p ∈ ps, ∀ l ∈ p.links, IsIdBelow ps.length l.targetId := by
  rw [danglingLinks_eq_nil_iff]
  simp only [(sortById_perm ps).mem_iff]

/-- Every case of the verdict is what building comes to. -/
theorem Verdict.build_eq (hlt : ps.length < UInt32.size) (h : Verdict ps start altStart r) :
    build ps start altStart = r := by
  have hlength := (sortById_perm ps).length_eq
  cases h with
  | empty h =>
    subst h
    rfl
  | notDense hne hids hgap =>
    cases hfound : firstGap 1 (sortById ps) with
    | none => exact absurd (firstGap_sortById_eq_none_iff.1 hfound) hids
    | some gap =>
      obtain ⟨e, f⟩ := gap
      obtain ⟨rfl, rfl⟩ := hgap.unique (isFirstGap_of_firstGap hlt hfound)
      exact build_of_gap hfound start altStart
  | invalidStart hne hids hstart =>
    rw [← hlength] at hstart
    rw [build_of_dense rfl (firstGap_sortById_eq_none_iff.2 hids) hne, dif_neg hstart]
  | invalidAltStart hne hids hstart halt =>
    rw [← hlength] at hstart halt
    rw [build_of_dense rfl (firstGap_sortById_eq_none_iff.2 hids) hne, dif_pos hstart, dif_neg halt]
  | dangling hne hids hstart halt hlinks hreport =>
    have hfound : danglingLinks (sortById ps).length (sortById ps) ≠ [] := by
      rw [hlength, Ne, danglingLinks_sortById_eq_nil_iff]
      simpa only [not_forall, exists_prop] using hlinks
    rw [← hlength] at hstart halt
    rw [build_of_dense rfl (firstGap_sortById_eq_none_iff.2 hids) hne, dif_pos hstart, dif_pos halt,
      dif_neg hfound, hlength,
      (reports_danglingLinks (sortById_perm ps) (strictlyAscending_sortById hids)).unique hreport]
  | story hne hids hstart halt hlinks hs =>
    have hnone : danglingLinks (sortById ps).length (sortById ps) = [] := by
      rw [hlength]
      exact danglingLinks_sortById_eq_nil_iff.2 hlinks
    rw [← hlength] at hstart halt
    rw [build_of_dense rfl (firstGap_sortById_eq_none_iff.2 hids) hne, dif_pos hstart, dif_pos halt,
      dif_pos hnone]
    exact congrArg Except.ok ((madeOf_of_perm (sortById_perm ps)).unique hs)

/-- There is a verdict on any passages and starts. -/
theorem exists_verdict (hlt : ps.length < UInt32.size) (start altStart : PassageId) :
    ∃ r, Verdict ps start altStart r := by
  have hlength := (sortById_perm ps).length_eq
  by_cases hne : ps = []
  · exact ⟨_, .empty hne⟩
  by_cases hids : IsNumbered ps
  case neg =>
    have hgap : firstGap 1 (sortById ps) ≠ none := fun h => hids (firstGap_sortById_eq_none_iff.1 h)
    obtain ⟨⟨e, f⟩, hfound⟩ := Option.ne_none_iff_exists'.1 hgap
    exact ⟨_, .notDense hne hids (isFirstGap_of_firstGap hlt hfound)⟩
  by_cases hstart : IsIdBelow ps.length start
  case neg => exact ⟨_, .invalidStart hne hids hstart⟩
  by_cases halt : IsIdBelow ps.length altStart
  case neg => exact ⟨_, .invalidAltStart hne hids hstart halt⟩
  by_cases hlinks : ∀ p ∈ ps, ∀ l ∈ p.links, IsIdBelow ps.length l.targetId
  case neg =>
    simp only [not_forall, exists_prop] at hlinks
    exact ⟨_, .dangling hne hids hstart halt hlinks
      (reports_danglingLinks (sortById_perm ps) (strictlyAscending_sortById hids))⟩
  let s : Story :=
    { passages := sortById ps
      start
      altStart
      isDense := firstGap_eq_none_iff.1 (firstGap_sortById_eq_none_iff.2 hids)
      start_isId := hlength ▸ hstart
      altStart_isId := hlength ▸ halt
      link_isId := by simpa only [hlength, (sortById_perm ps).mem_iff] using hlinks }
  exact ⟨_, .story (s := s) hne hids hstart halt hlinks (madeOf_of_perm (sortById_perm ps))⟩

/--
**Building follows the verdict.** Any passages, fewer than the numbers that can be told, and any
starts come to a story or to the report of their first kind of defect, as the verdict says.
-/
theorem build_eq_iff (hlt : ps.length < UInt32.size) (start altStart : PassageId)
    (r : Except StoryError Story) : build ps start altStart = r ↔ Verdict ps start altStart r := by
  constructor
  · rintro rfl
    obtain ⟨r, hr⟩ := exists_verdict hlt start altStart
    exact (hr.build_eq hlt).symm ▸ hr
  · exact Verdict.build_eq hlt

/-- Two passages, the second one first, whose last links lead nowhere. -/
def astray : List Passage :=
  [{ id := 2, name := "Pier", text := "", tags := .empty, links := [⟨"Jump", "Sea", 0⟩] },
    { id := 1, name := "Quay", text := "", tags := .empty,
      links := [⟨"On", "Pier", 2⟩, ⟨"Sail", "Island", 7⟩] }]

/-- Both links are reported, by the numbers of their passages. -/
theorem build_eq_iff_astray :
    let report : Except StoryError Story := .error (.dangling [⟨1, "Sail", 7⟩, ⟨2, "Jump", 0⟩])
    astray.length < UInt32.size ∧ build astray 1 2 = report ∧ Verdict astray 1 2 report := by
  intro report
  have hlt : astray.length < UInt32.size := by decide
  have hbuild : build astray 1 2 = report := rfl
  exact ⟨hlt, hbuild, (build_eq_iff hlt 1 2 report).1 hbuild⟩

end Story

end VisualNovel
