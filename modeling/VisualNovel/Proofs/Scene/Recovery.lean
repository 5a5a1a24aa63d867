/-
  VisualNovel.Proofs.Scene.Recovery

  A play can end between any two operations without loss: the store holds all
  that the ledger knows. An ending is noted and stored before anything else can
  fail, so no operation, successful or not, leaves the two apart.
-/

import VisualNovel.Proofs.Ledger.Hydration
import VisualNovel.Proofs.Scene.Operations
import VisualNovel.Proofs.Store.Durable
import VisualNovel.Stage.Recorder

namespace VisualNovel.Controller

open LedgerStore (Keeps Accepts)
open Time (Instant)

variable {σ τ : Type} [Presenter σ] [LedgerStore τ]

/-- The store and the ledger agree: a new play of the story would begin with this very ledger. -/
structure Stored (story : Story) (key : String) (l : Ledger) (s : τ) : Prop where
  seeded : l.Seeded story
  keeps : Keeps key s
  accepts : Accepts key s
  hydrate_eq : Ledger.hydrate story s key = .ok l

/-- They agree again once an ending was noted and stored. -/
theorem Stored.markReached {story : Story} {key : String} {l : Ledger} {s : τ}
    (h : Stored story key l s) (name : String) (outcome : Option String) (now : Instant) :
    Stored story key (l.markReached name outcome now)
      ((l.markReached name outcome now).persist s key).2 := by
  have hseeded := h.seeded.markReached name outcome now
  -- The write is taken, so the new save is what a reader finds.
  have hread := h.keeps.read_write_of_accepts h.accepts (l.markReached name outcome now).entries.encode
  exact ⟨hseeded, h.keeps.write _, h.accepts.write _, hseeded.hydrate_of_stored hread⟩

/--
**Recovery.** After any operations on a hydrated play, whatever they answered and whatever the
presentation refused, the store hydrates to the very ledger of the play.
-/
theorem hydrate_store_after {sc : Scenario} {presenter : σ} {store : τ} {c : Controller σ τ}
    (hc : hydrate sc presenter store = .ok c) (hkeeps : Keeps sc.config.ledgerKey store)
    (haccepts : Accepts sc.config.ledgerKey store) (ops : List (Operation × Instant)) :
    Ledger.hydrate sc.story (c.after ops).store sc.config.ledgerKey = .ok (c.after ops).ledger := by
  obtain ⟨hsc, -, rfl, -, hledger⟩ := eq_of_hydrate hc
  have hstored : Stored sc.story sc.config.ledgerKey c.ledger c.store :=
    ⟨Ledger.seeded_of_hydrate hledger, hkeeps, haccepts, hledger⟩
  have hafter : Stored sc.story sc.config.ledgerKey (c.after ops).ledger (c.after ops).store := by
    apply after_of_records _ hsc hstored
    intro l s p o now h _ _
    exact h.markReached p.name (some o.tag) now
  exact hafter.hydrate_eq

/-- The first exit of the prompts is refused, and what was reached is in the store nevertheless. -/
theorem hydrate_store_after_refusal :
    let c := (brief (Recorder.refusingAt [(.exit .prompts, 1)]) MemoryStore.empty).after Operation.brief
    c.ledger.isReached "Home" = true ∧ Ledger.hydrate Story.brief c.store "endings" = .ok c.ledger := by
  have hhydrate : hydrate .brief (Recorder.refusingAt [(.exit .prompts, 1)]) MemoryStore.empty =
      .ok (brief (Recorder.refusingAt [(.exit .prompts, 1)]) MemoryStore.empty) := rfl
  have hkeeps := MemoryStore.keeps .empty "endings"
  have haccepts := MemoryStore.accepts .empty "endings"
  have hstored := hydrate_store_after hhydrate hkeeps haccepts Operation.brief
  exact ⟨by decide +kernel, hstored⟩

end VisualNovel.Controller
