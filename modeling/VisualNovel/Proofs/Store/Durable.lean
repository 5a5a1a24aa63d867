/-
  VisualNovel.Proofs.Store.Durable

  What a store promises about a key. `Keeps` says that a write which succeeds is
  read back and that a write which fails leaves what was there, now and after any
  writes under that key; `Accepts` says that these writes all succeed. The store
  in memory promises both. A faulty store promises the first, whatever writes it
  is told to fail.
-/

import VisualNovel.Store.Faulty
import VisualNovel.Store.Memory

namespace VisualNovel

namespace LedgerStore

variable {τ : Type} [LedgerStore τ] {key : String} {s : τ}

/-- The store after some texts were written under a key, whatever came of each. -/
def writeAll (s : τ) (key : String) (values : List String) : τ :=
  values.foldl (fun s value => (write s key value).2) s

/-- The store keeps what is written under a key. -/
structure Keeps (key : String) (s : τ) : Prop where
  /-- A write that succeeds is read back. -/
  stored : ∀ values value t, write (writeAll s key values) key value = (.ok (), t) →
    read t key = .ok (some value)
  /-- A write that fails leaves what was there. -/
  unchanged : ∀ values value e t, write (writeAll s key values) key value = (.error e, t) →
    read t key = read (writeAll s key values) key

/-- The store takes every text that is written under a key. -/
def Accepts (key : String) (s : τ) : Prop :=
  ∀ values value, (write (writeAll s key values) key value).1 = .ok ()

theorem writeAll_write (s : τ) (key value : String) (values : List String) :
    writeAll (write s key value).2 key values = writeAll s key (value :: values) := rfl

/-- What a store keeps, it keeps after a write. -/
theorem Keeps.write (h : Keeps key s) (value : String) : Keeps key (write s key value).2 where
  stored values v t ht := by
    rw [writeAll_write] at ht
    exact h.stored (value :: values) v t ht
  unchanged values v e t ht := by
    rw [writeAll_write] at ht ⊢
    exact h.unchanged (value :: values) v e t ht

theorem Accepts.write (h : Accepts key s) (value : String) : Accepts key (write s key value).2 := by
  intro values v
  rw [writeAll_write]
  exact h (value :: values) v

/-- After a write there is the new text or what was there before. -/
theorem Keeps.read_write (h : Keeps key s) (value : String) :
    read (LedgerStore.write s key value).2 key = .ok (some value) ∨
      read (LedgerStore.write s key value).2 key = read s key := by
  rcases hw : LedgerStore.write s key value with ⟨result, t⟩
  cases result with
  | ok u => exact .inl (h.stored [] value t hw)
  | error e => exact .inr (h.unchanged [] value e t hw)

/-- After a write that is taken there is the new text. -/
theorem Keeps.read_write_of_accepts (h : Keeps key s) (ha : Accepts key s) (value : String) :
    read (LedgerStore.write s key value).2 key = .ok (some value) := by
  have hok : (LedgerStore.write s key value).1 = .ok () := ha [] value
  rcases hw : LedgerStore.write s key value with ⟨result, t⟩
  rw [hw] at hok
  cases result with
  | ok u => exact h.stored [] value t hw
  | error e => cases hok

/-- What every write keeps holds after any writes. -/
theorem writeAll_induction {P : τ → Prop} (hs : P s)
    (hwrite : ∀ t value, P t → P (LedgerStore.write t key value).2) (values : List String) :
    P (writeAll s key values) := by
  induction values generalizing s with
  | nil => exact hs
  | cons value values ih => exact ih (hwrite s value hs)

end LedgerStore

open LedgerStore (Keeps Accepts writeAll writeAll_induction)

/-! ## The stores there are -/

namespace MemoryStore

theorem read_write (s : MemoryStore) (key other value : String) :
    LedgerStore.read (LedgerStore.write s key value).2 other =
      if other = key then .ok (some value) else LedgerStore.read s other := by
  show Except.ok ((s.values.insert key value).get? other) = _
  rw [NameMap.get?_insert]
  by_cases h : other = key
  · rw [if_pos h, if_pos h]
  · rw [if_neg h, if_neg h]
    rfl

theorem keeps (s : MemoryStore) (key : String) : Keeps key s where
  stored values value t ht := by
    have hread := (writeAll s key values).read_write key key value
    rw [ht, if_pos rfl] at hread
    exact hread
  unchanged values value e t ht := by cases ht

theorem accepts (s : MemoryStore) (key : String) : Accepts key s := fun _ _ => rfl

end MemoryStore

namespace FaultyStore

variable {τ : Type} [LedgerStore τ] {key : String}

/-- A write reaches the inner store or fails. -/
theorem write_cases (s : FaultyStore τ) (key value : String) :
    LedgerStore.write s key value = (.error (.io .device), { s with writes := s.writes + 1 }) ∨
    LedgerStore.write s key value = ((LedgerStore.write s.inner key value).1,
      { s with inner := (LedgerStore.write s.inner key value).2, writes := s.writes + 1 }) := by
  show write s key value = _ ∨ write s key value = _
  -- Either way the write is counted, so that the next one has the next ordinal.
  rw [write]
  by_cases hfails : s.failsWrite s.writes = true
  · exact .inl (if_pos hfails)
  · exact .inr (if_neg hfails)

/-- A faulty store keeps what the store in it keeps, as long as it can be read. -/
theorem keeps {s : FaultyStore τ} (hread : s.failsRead = false) (hinner : Keeps key s.inner) :
    Keeps key s := by
  -- Whether it can be read never changes, and the inner store sees writes under the key only.
  have hwritten : ∀ values, (writeAll s key values).failsRead = false ∧
      Keeps key (writeAll s key values).inner := by
    apply writeAll_induction
      (P := fun t : FaultyStore τ => t.failsRead = false ∧ Keeps key t.inner) ⟨hread, hinner⟩
    rintro t value ⟨hread, hinner⟩
    rcases write_cases t key value with hw | hw
    · rw [hw]
      exact ⟨hread, hinner⟩
    · rw [hw]
      exact ⟨hread, hinner.write value⟩
  have hreads : ∀ t : FaultyStore τ, t.failsRead = false →
      LedgerStore.read t key = LedgerStore.read t.inner key := by
    intro t ht
    show read t key = _
    rw [read, ht]
    rfl
  constructor
  · intro values value t ht
    obtain ⟨hread, hinner⟩ := hwritten values
    rcases write_cases (writeAll s key values) key value with hw | hw
    · rw [hw] at ht
      cases ht
    · rw [hw] at ht
      obtain ⟨hok, rfl⟩ := Prod.mk.inj ht
      refine (hreads _ ?_).trans ?_
      · exact hread
      · exact hinner.stored [] value _ (Prod.ext hok rfl)
  · intro values value e t ht
    obtain ⟨hread, hinner⟩ := hwritten values
    rw [hreads _ hread]
    rcases write_cases (writeAll s key values) key value with hw | hw
    · rw [hw] at ht
      obtain ⟨-, rfl⟩ := Prod.mk.inj ht
      refine (hreads _ ?_).trans rfl
      exact hread
    · rw [hw] at ht
      obtain ⟨hfailed, rfl⟩ := Prod.mk.inj ht
      refine (hreads _ ?_).trans ?_
      · exact hread
      · exact hinner.unchanged [] value e _ (Prod.ext hfailed rfl)

end FaultyStore

end VisualNovel
