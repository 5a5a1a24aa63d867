/-
  VisualNovel.Proofs.Ledger.Kept

  Progress that is kept. Of a save that is loaded, and of a ledger that notes an
  ending, no name is lost, no ending that was reached is forgotten or dated anew,
  and the records of other names stay as they were (`Save.Kept`).
-/

import VisualNovel.Proofs.Ledger.Hydration

namespace VisualNovel

open EndingRecord (unreached)
open Time (Instant)

/-! ## Records -/

namespace EndingRecord

/-- An ending that was reached is still reached, for the first time at the same instant. -/
def StaysReached (r r' : EndingRecord) : Prop :=
  r.reached = true → r'.reached = true ∧ r'.firstReachedAt = r.firstReachedAt

theorem StaysReached.refl (r : EndingRecord) : r.StaysReached r :=
  fun h => ⟨h, rfl⟩

theorem StaysReached.trans {r₁ r₂ r₃ : EndingRecord} (h : r₁.StaysReached r₂)
    (h' : r₂.StaysReached r₃) : r₁.StaysReached r₃ := by
  intro hreached
  obtain ⟨h₂, hfirst⟩ := h hreached
  obtain ⟨h₃, hfirst'⟩ := h' h₂
  exact ⟨h₃, hfirst'.trans hfirst⟩

theorem staysReached_unreached_merge (outcome : Option String) (r : EndingRecord) :
    r.StaysReached ((unreached outcome).merge r) := by
  intro h
  rw [unreached_merge]
  exact ⟨h, rfl⟩

theorem staysReached_mark (r : EndingRecord) (outcome : Option String) (now : Instant) :
    r.StaysReached (r.mark outcome now) := by
  intro h
  exact ⟨rfl, if_pos h⟩

end EndingRecord

/-! ## Saves -/

namespace Save

/--
A later save keeps what an earlier one has: every name, every ending reached with the instant, and
the whole record of each name that is none of those that may change.
-/
def Kept (mayChange : String → Prop) (before after : Save) : Prop :=
  ∀ name r, before.get? name = some r →
    ∃ r', after.get? name = some r' ∧ r.StaysReached r' ∧ (¬ mayChange name → r' = r)

variable {P Q : String → Prop} {s₁ s₂ s₃ : Save}

theorem Kept.refl (s : Save) : s.Kept P s :=
  fun _ r h => ⟨r, h, .refl r, fun _ => rfl⟩

theorem Kept.trans (h : s₁.Kept P s₂) (h' : s₂.Kept P s₃) : s₁.Kept P s₃ := by
  intro name r₁ h₁
  obtain ⟨r₂, h₂, hreached, hsame⟩ := h name r₁ h₁
  obtain ⟨r₃, h₃, hreached', hsame'⟩ := h' name r₂ h₂
  refine ⟨r₃, h₃, hreached.trans hreached', ?_⟩
  intro hname
  rw [hsame' hname, hsame hname]

theorem Kept.mono (h : s₁.Kept P s₂) (hPQ : ∀ name, P name → Q name) : s₁.Kept Q s₂ := by
  intro name r₁ h₁
  obtain ⟨r₂, h₂, hreached, hsame⟩ := h name r₁ h₁
  exact ⟨r₂, h₂, hreached, fun hname => hsame fun hP => hname (hPQ name hP)⟩

end Save

/-! ## Ledgers -/

namespace Ledger

/-- Loading a save keeps it; the story may only say more of its own endings. -/
theorem kept_load (story : Story) (saved : Save) :
    saved.Kept story.HasEnding ((ofStory story).load saved).entries := by
  intro name r hr
  obtain ⟨outcome, hseed⟩ := exists_seed_getD story name
  have hload : ((ofStory story).load saved).get? name = some ((unreached outcome).merge r) := by
    rw [get?_load, hr, ← hseed]
    rfl
  refine ⟨(unreached outcome).merge r, hload, EndingRecord.staysReached_unreached_merge outcome r, ?_⟩
  intro hname
  -- The seed has nothing to say of a name that is no ending of the story.
  rw [← hseed, seed_getD_of_not_hasEnding hname, EndingRecord.default_merge]

/-- Noting an ending keeps all that the ledger has and changes at most this one record. -/
theorem kept_markReached {P : String → Prop} (l : Ledger) {name : String} (hname : P name)
    (outcome : Option String) (now : Instant) :
    l.entries.Kept P (l.markReached name outcome now).entries := by
  intro other r hr
  have hget := l.get?_markReached name other outcome now
  by_cases heq : other = name
  · subst heq
    have hl : l.get? other = some r := hr
    rw [if_pos rfl, hl] at hget
    exact ⟨r.mark outcome now, hget, r.staysReached_mark outcome now, fun h => absurd hname h⟩
  · rw [if_neg heq] at hget
    exact ⟨r, hget.trans hr, .refl r, fun _ => rfl⟩

end Ledger

end VisualNovel
