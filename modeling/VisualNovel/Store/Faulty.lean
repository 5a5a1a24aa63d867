/-
  VisualNovel.Store.Faulty

  A store around another one that fails at chosen calls. A call that fails does
  not reach the inner store.
-/

import VisualNovel.Store.Basic

namespace VisualNovel

/-- A store whose reads may all fail and whose writes fail at chosen ordinals. -/
structure FaultyStore (σ : Type) where
  inner : σ
  failsRead : Bool
  /-- Whether the write fails that comes after so many others. -/
  failsWrite : Nat → Bool
  /-- Number of writes asked for so far. -/
  writes : Nat := 0

namespace FaultyStore

variable {σ : Type} [LedgerStore σ]

/-- Reads from the inner store, or fails. -/
def read (s : FaultyStore σ) (key : String) : Except StoreError (Option String) :=
  if s.failsRead then .error (.io .device) else LedgerStore.read s.inner key

/-- Writes to the inner store, or fails. -/
def write (s : FaultyStore σ) (key value : String) : Except StoreError Unit × FaultyStore σ :=
  if s.failsWrite s.writes then (.error (.io .device), { s with writes := s.writes + 1 })
  else
    let (result, inner) := LedgerStore.write s.inner key value
    (result, { s with inner, writes := s.writes + 1 })

instance : LedgerStore (FaultyStore σ) := ⟨read, write⟩

end FaultyStore

end VisualNovel
