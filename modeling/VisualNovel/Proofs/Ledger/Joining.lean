/-
  VisualNovel.Proofs.Ledger.Joining

  Records, saves and ledgers that are joined. Joining records is associative and
  idempotent, and a record without knowledge is neutral (`EndingRecord.merge_assoc`,
  `merge_self`). It is not commutative, but the order makes a difference to the
  outcome only (`EndingRecord.merge_swap`). What a save knows of a name is joined
  like a record (`Save.known_merge`), so saves and ledgers inherit these laws. The
  ledger of a story has an outcome for each ending before anything is loaded, so
  there the order makes no difference at all (`Ledger.sameProgress_load_load`).
-/

import VisualNovel.Proofs.Session.SharedLedger

namespace VisualNovel

open Time (Instant)

/-! ## Instants -/

namespace Time.Instant

theorem earlier_self (t : Instant) : t.earlier t = t := by
  rw [earlier, ite_self]

theorem earlier_comm (s t : Instant) : s.earlier t = t.earlier s := by
  apply rank_injective
  rw [rank_earlier, rank_earlier, Int.min_comm]

theorem earlier_assoc (s t u : Instant) : (s.earlier t).earlier u = s.earlier (t.earlier u) := by
  apply rank_injective
  rw [rank_earlier, rank_earlier, rank_earlier, rank_earlier, Int.min_assoc]

end Time.Instant

/-! ## Records -/

namespace EndingRecord

theorem earliest_self (t : Option Instant) : earliest t t = t := by
  cases t with
  | none => rfl
  | some t => exact congrArg some t.earlier_self

theorem earliest_comm (s t : Option Instant) : earliest s t = earliest t s := by
  cases s with
  | none => rw [earliest_none_left, earliest_none_right]
  | some s =>
    cases t with
    | none => rfl
    | some t => exact congrArg some (s.earlier_comm t)

theorem earliest_assoc (s t u : Option Instant) :
    earliest (earliest s t) u = earliest s (earliest t u) := by
  cases s with
  | none => rw [earliest_none_left, earliest_none_left]
  | some s =>
    cases t with
    | none => rw [earliest_none_right, earliest_none_left]
    | some t =>
      cases u with
      | none => rw [earliest_none_right, earliest_none_right]
      | some u => exact congrArg some (s.earlier_assoc t u)

theorem merge_assoc (p q r : EndingRecord) : (p.merge q).merge r = p.merge (q.merge r) := by
  simp only [merge, Bool.or_assoc, Option.or_assoc, earliest_assoc]

theorem merge_self (r : EndingRecord) : r.merge r = r := by
  simp only [merge, Bool.or_self, Option.or_self, earliest_self]

/-- The order in which two records are taken in makes a difference to the outcome only. -/
theorem merge_swap (p q r : EndingRecord) :
    (p.merge q).merge r = { (p.merge r).merge q with outcome := (p.outcome.or q.outcome).or r.outcome } := by
  have hreached : (p.reached || q.reached || r.reached) = (p.reached || r.reached || q.reached) :=
    Bool.or_right_comm ..
  have hfirst : earliest (earliest p.firstReachedAt q.firstReachedAt) r.firstReachedAt =
      earliest (earliest p.firstReachedAt r.firstReachedAt) q.firstReachedAt := by
    rw [earliest_assoc, earliest_comm q.firstReachedAt, earliest_assoc]
  simp only [merge, hreached, hfirst]

/-- With an outcome to begin with, the order makes no difference. -/
theorem merge_swap_of_outcome {p : EndingRecord} {tag : String} (h : p.outcome = some tag)
    (q r : EndingRecord) : (p.merge q).merge r = (p.merge r).merge q := by
  rw [merge_swap]
  simp only [merge, h, Option.some_or]

end EndingRecord

/-! ## Saves -/

namespace Save

/-- What a save knows of a name: its record, or nothing. -/
def known (s : Save) (name : String) : EndingRecord :=
  (s.get? name).getD {}

theorem get?_eq_known (s : Save) (name : String) :
    s.get? name = if s.contains name then some (s.known name) else none := by
  rw [NameMap.contains, known]
  cases s.get? name <;> rfl

/-- Saves are known by their names and what they know of them. -/
theorem ext_known {s t : Save} (hcontains : ∀ name, s.contains name = t.contains name)
    (hknown : ∀ name, s.known name = t.known name) : s = t := by
  apply NameMap.ext_get?
  intro name
  rw [get?_eq_known, get?_eq_known, hcontains, hknown]

/-- What saves know of a name is joined like a record. -/
theorem known_merge (s t : Save) (name : String) :
    (s.merge t).known name = (s.known name).merge (t.known name) := by
  rw [known, get?_merge, known, known]
  cases t.get? name with
  | none => exact (EndingRecord.merge_default _).symm
  | some r => rfl

theorem merge_assoc (s t u : Save) : (s.merge t).merge u = s.merge (t.merge u) := by
  apply ext_known
  · intro name
    simp only [contains_merge, Bool.or_assoc]
  · intro name
    simp only [known_merge, EndingRecord.merge_assoc]

theorem merge_self (s : Save) : s.merge s = s := by
  apply ext_known
  · intro name
    rw [contains_merge, Bool.or_self]
  · intro name
    rw [known_merge, EndingRecord.merge_self]

end Save

/-! ## Ledgers -/

namespace Ledger

variable {story : Story}

theorem isReached_eq_known (l : Ledger) (name : String) : l.isReached name = (l.entries.known name).reached := by
  rw [isReached, get?, Save.known]
  cases l.entries.get? name <;> rfl

theorem firstReachedAt_eq_known (l : Ledger) (name : String) :
    l.firstReachedAt name = (l.entries.known name).firstReachedAt := by
  rw [firstReachedAt, get?, Save.known]
  cases l.entries.get? name <;> rfl

/-- To load two saves in a row is to load the join of them. -/
theorem load_load (l : Ledger) (s t : Save) : (l.load s).load t = l.load (s.merge t) := by
  apply ext_get?
  · intro name
    exact congrArg (NameMap.get? · name) (l.entries.merge_assoc s t)
  · rfl

theorem load_load_self (l : Ledger) (s : Save) : (l.load s).load s = l.load s := by
  rw [load_load, Save.merge_self]

/-- A ledger learns nothing from its own records. -/
theorem load_entries (l : Ledger) : l.load l.entries = l := by
  apply ext_get?
  · intro name
    exact congrArg (NameMap.get? · name) l.entries.merge_self
  · rfl

/-- An ending of the story has an outcome before anything is loaded. -/
theorem exists_outcome_seed {name : String} (h : story.HasEnding name) :
    ∃ tag, ((seed story).known name).outcome = some tag := by
  obtain ⟨p, hp, rfl⟩ := h
  obtain ⟨q, hq⟩ := Story.exists_lastEnding? hp
  obtain ⟨o, ho, -⟩ := Story.outcome_of_mem_endings (Story.mem_endings_of_lastEnding? hq).1
  refine ⟨o.tag, ?_⟩
  rw [Save.known, get?_seed_eq, hq, Option.map_some, ho]
  rfl

/-- Two ledgers that differ at most in the outcomes of names that the story does not have. -/
structure SameProgress (story : Story) (l m : Ledger) : Prop where
  names_eq : l.entries.names = m.entries.names
  isReached_eq : ∀ name, l.isReached name = m.isReached name
  firstReachedAt_eq : ∀ name, l.firstReachedAt name = m.firstReachedAt name
  /-- Every ending of the story has one record in both. -/
  record_eq : ∀ name, story.HasEnding name → ∃ r, l.get? name = some r ∧ m.get? name = some r
  reachedCount_eq : l.reachedCount = m.reachedCount
  total_eq : l.total = m.total

theorem contains_load_load (l : Ledger) (s t : Save) (name : String) :
    ((l.load s).load t).entries.contains name = ((l.load t).load s).entries.contains name := by
  simp only [load, Save.contains_merge, Bool.or_right_comm]

/-- Of what is known of a name the order of loading touches the outcome only. -/
theorem known_load_load (l : Ledger) (s t : Save) (name : String) :
    ((l.load s).load t).entries.known name =
      { ((l.load t).load s).entries.known name with
        outcome := ((l.entries.known name).outcome.or (s.known name).outcome).or (t.known name).outcome } := by
  simp only [load, Save.known_merge]
  exact EndingRecord.merge_swap ..

/-- An ending of the story has an outcome to begin with, so its record does not depend on the order. -/
theorem get?_load_load_of_hasEnding {name : String} (h : story.HasEnding name) (s t : Save) :
    (((ofStory story).load s).load t).get? name = (((ofStory story).load t).load s).get? name := by
  obtain ⟨tag, htag⟩ := exists_outcome_seed h
  have hknown : (((ofStory story).load s).load t).entries.known name =
      (((ofStory story).load t).load s).entries.known name := by
    simp only [load, Save.known_merge]
    exact EndingRecord.merge_swap_of_outcome htag ..
  rw [get?, get?, Save.get?_eq_known, Save.get?_eq_known, contains_load_load, hknown]

/-- The order in which saves are loaded makes no difference to the progress. -/
theorem sameProgress_load_load (story : Story) (s t : Save) :
    SameProgress story (((ofStory story).load s).load t) (((ofStory story).load t).load s) := by
  have hseeded := ((seeded_ofStory story).load s).load t
  have hseeded' := ((seeded_ofStory story).load t).load s
  have hreached : ∀ name, (((ofStory story).load s).load t).isReached name =
      (((ofStory story).load t).load s).isReached name := by
    intro name
    rw [isReached_eq_known, isReached_eq_known, known_load_load]
  constructor
  case names_eq => exact NameMap.names_eq_of_contains (contains_load_load (ofStory story) s t)
  case isReached_eq => exact hreached
  case firstReachedAt_eq =>
    intro name
    rw [firstReachedAt_eq_known, firstReachedAt_eq_known, known_load_load]
  case record_eq =>
    intro name hname
    obtain ⟨r, hr⟩ := hseeded.countsEndings.recorded name hname
    exact ⟨r, hr, get?_load_load_of_hasEnding hname s t ▸ hr⟩
  case reachedCount_eq =>
    rw [hseeded.reachedCount_eq, hseeded'.reachedCount_eq]
    simp only [hreached]
  case total_eq => rw [hseeded.total_eq, hseeded'.total_eq]

/-- Outside the story it is the save loaded first whose outcome is kept. -/
theorem exists_load_load_ne {name : String} (h : ¬ story.HasEnding name) :
    ∃ s t : Save, (((ofStory story).load s).load t).get? name ≠ (((ofStory story).load t).load s).get? name := by
  let s : Save := NameMap.empty.insert name (.ofTag "BAD-END")
  let t : Save := NameMap.empty.insert name (.ofTag "Good-End")
  have hs : s.known name = .ofTag "BAD-END" := by
    rw [Save.known, NameMap.get?_insert, if_pos rfl, Option.getD_some]
  have ht : t.known name = .ofTag "Good-End" := by
    rw [Save.known, NameMap.get?_insert, if_pos rfl, Option.getD_some]
  have hseed : (seed story).known name = {} := seed_getD_of_not_hasEnding h
  refine ⟨s, t, ?_⟩
  intro heq
  have hknown : (((seed story).merge s).merge t).known name = (((seed story).merge t).merge s).known name :=
    congrArg (fun r : Option EndingRecord => r.getD {}) heq
  simp only [Save.known_merge, hseed, hs, ht, EndingRecord.default_merge] at hknown
  exact absurd hknown (by decide)

/--
**The laws of joining.** Joining records is associative and idempotent, and a record without
knowledge is neutral. So a save that is loaded twice is loaded once, a ledger learns nothing from
its own records, and the order in which saves are loaded into the ledger of a story makes no
difference to the progress. It may make one to the outcomes of names that the story does not have.
-/
theorem load_laws (story : Story) (s t : Save) :
    (∀ p q r : EndingRecord, (p.merge q).merge r = p.merge (q.merge r)) ∧
    (∀ r : EndingRecord, r.merge r = r ∧ EndingRecord.merge {} r = r ∧ r.merge {} = r) ∧
    (∀ l : Ledger, (l.load s).load s = l.load s ∧ l.load l.entries = l) ∧
    SameProgress story (((ofStory story).load s).load t) (((ofStory story).load t).load s) ∧
    ∀ name, ¬ story.HasEnding name → ∃ s' t' : Save,
      (((ofStory story).load s').load t').get? name ≠ (((ofStory story).load t').load s').get? name :=
  ⟨EndingRecord.merge_assoc,
    fun r => ⟨r.merge_self, r.default_merge, r.merge_default⟩,
    fun l => ⟨l.load_load_self s, l.load_entries⟩,
    sameProgress_load_load story s t,
    fun _ h => exists_load_load_ne h⟩

end Ledger

end VisualNovel
