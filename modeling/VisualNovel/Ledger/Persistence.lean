/-
  VisualNovel.Ledger.Persistence

  Keeping the ledger in a store: a ledger is hydrated from what is stored under a
  key, joined with the endings of the story, and persisted under the same key.
-/

import VisualNovel.Ledger.Basic
import VisualNovel.Store.Basic

namespace VisualNovel

/-- Why a ledger could not be loaded or saved. -/
inductive LedgerError
  | store (e : StoreError)
  | corrupt (problem : Json.Problem)
  deriving DecidableEq, Repr

/-- The wording of an error. -/
def LedgerError.message : LedgerError → String
  | .store e => "store error: " ++ e.message
  | .corrupt problem => "corrupt ledger data: " ++ problem.message .text

namespace Ledger

variable {σ : Type} [LedgerStore σ]

/-- The ledger of a story with what is stored under a key. -/
def hydrate (story : Story) (store : σ) (key : String) : Except LedgerError Ledger :=
  match LedgerStore.read store key with
  | .error e => .error (.store e)
  | .ok none => .ok (ofStory story)
  | .ok (some saved) =>
    match Save.decode saved with
    | .error problem => .error (.corrupt problem)
    | .ok save => .ok ((ofStory story).load save)

/-- Stores all records under a key. -/
def persist (l : Ledger) (store : σ) (key : String) : Except StoreError Unit × σ :=
  LedgerStore.write store key l.entries.encode

end Ledger

end VisualNovel
