/-
  VisualNovel.Proofs.Ledger.Hydration

  Loading a save into the ledger of a story. The ledger of a story starts with an
  unreached record for each ending, and joining an unreached record a second time
  changes nothing. So a ledger that has taken in its story (`Seeded`) is what its
  own save loads as (`Seeded.load_entries`), and a store that holds this save
  hydrates to the ledger (`Seeded.hydrate_of_stored`).
-/

import VisualNovel.Ledger.Persistence
import VisualNovel.Proofs.Ledger.SaveCodec
import VisualNovel.Proofs.Story.Lookup

namespace VisualNovel

open Time (Instant)

/-! ## Unreached records -/

namespace EndingRecord

/-- The record of an ending that was not reached. -/
def unreached (outcome : Option String) : EndingRecord :=
  { outcome }

variable {outcome : Option String} {r : EndingRecord}

/-- An unreached record knows nothing but the outcome. -/
theorem unreached_merge (outcome : Option String) (r : EndingRecord) :
    (unreached outcome).merge r = { r with outcome := outcome.or r.outcome } := by
  simp [unreached, merge]

/-- A record has taken in an unreached one if it has its outcome. -/
theorem unreached_merge_eq_iff : (unreached outcome).merge r = r ↔ outcome.or r.outcome = r.outcome := by
  rw [unreached_merge]
  constructor
  · exact congrArg EndingRecord.outcome
  · intro h
    rw [h]

@[simp] theorem unreached_merge_self (outcome : Option String) :
    (unreached outcome).merge (unreached outcome) = unreached outcome := by
  rw [unreached_merge, unreached, Option.or_self]

/-- A record that has taken in an unreached one still has it when its ending is reached. -/
theorem unreached_merge_mark (h : (unreached outcome).merge r = r) (tag : Option String)
    (now : Instant) : (unreached outcome).merge (r.mark tag now) = r.mark tag now := by
  rw [unreached_merge_eq_iff] at h ⊢
  rw [mark, ← Option.or_assoc, h]

/-- A record that has taken in an unreached one still has it when it takes in more. -/
theorem unreached_merge_merge (h : (unreached outcome).merge r = r) (other : EndingRecord) :
    (unreached outcome).merge (r.merge other) = r.merge other := by
  rw [unreached_merge_eq_iff] at h ⊢
  rw [merge, ← Option.or_assoc, h]

end EndingRecord

open EndingRecord (unreached)

/-! ## The endings of a story -/

/-- Whether a story has an ending of that name. -/
def Story.HasEnding (s : Story) (name : String) : Prop :=
  ∃ p ∈ s.endings, p.name = name

namespace Ledger

variable {story : Story}

/-- The seed has unreached records only, each for an ending of the story. -/
theorem get?_seed {name : String} {r : EndingRecord} (h : (seed story).get? name = some r) :
    story.HasEnding name ∧ ∃ outcome, r = unreached outcome := by
  rw [seed, NameMap.get?_ofList] at h
  have hmem := List.mem_reverse.1 (NameMap.mem_of_find?_eq_some h)
  obtain ⟨p, hp, he⟩ := List.mem_map.1 hmem
  obtain ⟨hname, hr⟩ := Prod.mk.inj he
  refine ⟨⟨p, hp, hname⟩, p.outcome.map fun o => o.tag, ?_⟩
  rw [← hr]
  rfl

/-- What the seed adds to the record of a name. -/
theorem exists_seed_getD (story : Story) (name : String) :
    ∃ outcome, ((seed story).get? name).getD {} = unreached outcome := by
  cases h : (seed story).get? name with
  | none => exact ⟨none, rfl⟩
  | some r =>
    obtain ⟨-, outcome, rfl⟩ := get?_seed h
    exact ⟨outcome, rfl⟩

theorem seed_getD_of_not_hasEnding {name : String} (h : ¬ story.HasEnding name) :
    ((seed story).get? name).getD {} = {} := by
  cases hseed : (seed story).get? name with
  | none => rfl
  | some r => exact absurd (get?_seed hseed).1 h

theorem ext_get? {l m : Ledger} (hentries : ∀ name, l.get? name = m.get? name)
    (hstory : l.story = m.story) : l = m := by
  have hsame : l.entries = m.entries := NameMap.ext_get? hentries
  obtain ⟨les, ls, hl⟩ := l
  obtain ⟨mes, ms, hm⟩ := m
  cases hsame
  cases hstory
  rfl

/-! ## Ledgers that have taken in their story -/

/-- The ledger has taken in the endings of a story. -/
structure Seeded (story : Story) (l : Ledger) : Prop where
  story_eq : l.story = (ofStory story).story
  /-- The record of an ending has what the story says of it. -/
  merge_eq : ∀ name r, (seed story).get? name = some r → ∃ q, l.get? name = some q ∧ r.merge q = q

theorem seeded_ofStory (story : Story) : Seeded story (ofStory story) where
  story_eq := rfl
  merge_eq name r h := by
    obtain ⟨-, outcome, rfl⟩ := get?_seed h
    exact ⟨unreached outcome, h, EndingRecord.unreached_merge_self outcome⟩

/-- A save that is taken in takes nothing away. -/
theorem Seeded.load {l : Ledger} (h : Seeded story l) (saved : Save) : Seeded story (l.load saved) where
  story_eq := h.story_eq
  merge_eq name r hr := by
    obtain ⟨q, hq, hmerge⟩ := h.merge_eq name r hr
    obtain ⟨-, outcome, rfl⟩ := get?_seed hr
    rw [get?_load, hq]
    cases saved.get? name with
    -- What is not in the save stays as it was.
    | none => exact ⟨q, rfl, hmerge⟩
    | some other => exact ⟨q.merge other, rfl, EndingRecord.unreached_merge_merge hmerge other⟩

/-- A ledger is hydrated with the endings of its story. -/
theorem seeded_of_hydrate {τ : Type} [LedgerStore τ] {store : τ} {key : String} {l : Ledger}
    (h : hydrate story store key = .ok l) : Seeded story l := by
  rw [hydrate] at h
  split at h
  · cases h
  · cases h
    exact seeded_ofStory story
  · split at h
    · cases h
    · cases h
      exact (seeded_ofStory story).load _

/-- Noting an ending takes nothing away. -/
theorem Seeded.markReached {l : Ledger} (h : Seeded story l) (name : String) (outcome : Option String)
    (now : Instant) : Seeded story (l.markReached name outcome now) where
  story_eq := h.story_eq
  merge_eq other r hr := by
    obtain ⟨q, hq, hmerge⟩ := h.merge_eq other r hr
    rw [get?_markReached]
    by_cases hname : other = name
    · subst hname
      obtain ⟨-, seedOutcome, rfl⟩ := get?_seed hr
      rw [if_pos rfl, hq]
      exact ⟨_, rfl, EndingRecord.unreached_merge_mark hmerge outcome now⟩
    · rw [if_neg hname]
      exact ⟨q, hq, hmerge⟩

/-! ## Hydrating from its own save -/

/-- **A ledger that has taken in its story is what its own save loads as.** -/
theorem Seeded.load_entries {l : Ledger} (h : Seeded story l) : (ofStory story).load l.entries = l := by
  apply ext_get?
  · intro name
    have hentries : l.entries.get? name = l.get? name := rfl
    have hofStory : (ofStory story).get? name = (seed story).get? name := rfl
    rw [get?_load, hentries, hofStory]
    cases hseed : (seed story).get? name with
    | none =>
      -- No ending of the story: what the ledger has is joined into an empty record.
      cases l.get? name with
      | none => rfl
      | some r => exact congrArg some (EndingRecord.default_merge r)
    | some r =>
      obtain ⟨q, hq, hmerge⟩ := h.merge_eq name r hseed
      rw [hq]
      exact congrArg some hmerge
  · exact h.story_eq.symm

/-- A store that holds a ledger's save hydrates to the ledger. -/
theorem Seeded.hydrate_of_stored {τ : Type} [LedgerStore τ] {store : τ} {key : String} {l : Ledger}
    (h : Seeded story l) (hstored : LedgerStore.read store key = .ok (some l.entries.encode)) :
    hydrate story store key = .ok l := by
  rw [hydrate, hstored]
  simp only [Save.decode_encode, h.load_entries]

end Ledger

end VisualNovel
