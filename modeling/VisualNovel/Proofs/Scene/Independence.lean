/-
  VisualNovel.Proofs.Scene.Independence

  What a play does depends on the story and on the reader only. Two plays of one
  scenario, whose presentations refuse the same transitions, are the same to the
  reader whatever is in their stores and whichever writes fail: the same answers,
  the same scenes, and the same directives but for the number of endings reached
  (`indistinguishable_after`). If the stores began with the same save, nothing at
  all tells the plays apart.
-/

import VisualNovel.Proofs.Ledger.Hydration
import VisualNovel.Proofs.Scene.Lockstep
import VisualNovel.Store.Faulty
import VisualNovel.Store.Memory

namespace VisualNovel

open Presenter (AnswerAlike)
open Time (Instant)

variable {σ₁ σ₂ τ₁ τ₂ : Type} [Presenter σ₁] [Presenter σ₂]

/-! ## Transcripts -/

/-- Two presentations of which all is noted. They were asked what looks the same and answer alike. -/
structure AskedAlike (view : Directive → Directive) (w : Watched σ₁ (List Directive))
    (v : Watched σ₂ (List Directive)) : Prop where
  note₁ : w.note = Watched.jot
  note₂ : v.note = Watched.jot
  notes_eq : w.notes.map view = v.notes.map view
  answers : AnswerAlike view w.inner v.inner

theorem AskedAlike.ask {view : Directive → Directive} {w : Watched σ₁ (List Directive)}
    {v : Watched σ₂ (List Directive)} (h : AskedAlike view w v) {d e : Directive}
    (hde : view d = view e) : AskedAlike view (Presenter.ask w d) (Presenter.ask v e) := by
  rw [Presenter.ask_watched, Presenter.ask_watched]
  refine ⟨h.note₁, h.note₂, ?_, h.answers.ask hde⟩
  simp only [h.note₁, h.note₂, Watched.jot, List.map_append, List.map_cons, List.map_nil, h.notes_eq, hde]

namespace Controller

variable [LedgerStore τ₁] [LedgerStore τ₂]

/-- All that some operations ask of the presentation, in order; refused transitions are included. -/
def issued (c : Controller σ₁ τ₁) (ops : List (Operation × Instant)) : List Directive :=
  ((c.watched Watched.jot []).after ops).presenter.notes

/-- Transcripts go on alike, provided that the records give the same progress to look at. -/
theorem lockstep_asked {sc : Scenario} {now₁ now₂ : Instant} {view : Directive → Directive}
    {K : Ledger → τ₁ → Ledger → τ₂ → Prop}
    (hprogress : ∀ l s m u, K l s m u →
      view (.display (.endingsProgress l.reachedCount l.total)) =
        view (.display (.endingsProgress m.reachedCount m.total)))
    (hfinish : ∀ l s m u name outcome, K l s m u →
      K (l.markReached name outcome now₁)
        ((l.markReached name outcome now₁).persist s sc.config.ledgerKey).2
        (m.markReached name outcome now₂)
        ((m.markReached name outcome now₂).persist u sc.config.ledgerKey).2) :
    Lockstep sc now₁ now₂ (@AskedAlike σ₁ σ₂ _ _ view) K where
  display _ _ d h := h.ask (d := .display d) rfl
  perform _ _ t h := ⟨h.answers [] [] t rfl, h.ask (d := .transition t) rfl⟩
  progress _ _ l s m u h hk := h.ask (hprogress l s m u hk)
  finish := hfinish

/-- Two plays that go on alike, with all noted, give the same answers and issue what looks the same. -/
theorem issued_alike {sc : Scenario} {view : Directive → Directive}
    {K : Ledger → τ₁ → Ledger → τ₂ → Prop} (ops : List JointOperation)
    (h : ∀ op ∈ ops, Lockstep sc op.now₁ op.now₂ (@AskedAlike σ₁ σ₂ _ _ view) K)
    {c₁ : Controller σ₁ τ₁} {c₂ : Controller σ₂ τ₂}
    (hc : Alike sc (AnswerAlike view) K c₁ c₂) :
    c₁.answers (ops.map JointOperation.first) = c₂.answers (ops.map JointOperation.second) ∧
      (c₁.issued (ops.map JointOperation.first)).map view =
        (c₂.issued (ops.map JointOperation.second)).map view ∧
      (c₁.after (ops.map JointOperation.first)).active =
        (c₂.after (ops.map JointOperation.second)).active ∧
      K (c₁.after (ops.map JointOperation.first)).ledger (c₁.after (ops.map JointOperation.first)).store
        (c₂.after (ops.map JointOperation.second)).ledger
        (c₂.after (ops.map JointOperation.second)).store := by
  have hwatched : Alike sc (AskedAlike view) K (c₁.watched Watched.jot []) (c₂.watched Watched.jot []) :=
    ⟨hc.scenario₁, hc.scenario₂, hc.active_eq, ⟨rfl, rfl, rfl, hc.presenters⟩, hc.records⟩
  obtain ⟨hanswers, hafter⟩ := alike_after h hwatched
  obtain ⟨hanswers₁, hafter₁⟩ := after_watched c₁ Watched.jot [] (ops.map JointOperation.first)
  obtain ⟨hanswers₂, hafter₂⟩ := after_watched c₂ Watched.jot [] (ops.map JointOperation.second)
  rw [← hanswers₁, ← hanswers₂, ← hafter₁, ← hafter₂]
  exact ⟨hanswers, hafter.presenters.notes_eq, hafter.active_eq, hafter.records⟩

/-! ## Whatever is stored -/

/--
**Play does not depend on what is stored.** Take two plays of a scenario, hydrated from any saves in
any stores, with presentations that answer alike, as they do if they refuse by kind and ordinal
(`AnswersBy.answerAlike`). Whatever is asked of both, they give the same answers, the same scene is
active with the same session, and all that they ask of their presentations is the same but for the
number of endings reached. If the saves were the same and so are the clocks, that number and the
ledgers are the same, whichever writes failed.
-/
theorem indistinguishable_after {sc : Scenario} {p₁ : σ₁} {p₂ : σ₂}
    (hp : AnswerAlike Directive.hideReached p₁ p₂) {s₁ : τ₁} {s₂ : τ₂} {c₁ : Controller σ₁ τ₁}
    {c₂ : Controller σ₂ τ₂} (h₁ : hydrate sc p₁ s₁ = .ok c₁) (h₂ : hydrate sc p₂ s₂ = .ok c₂)
    (ops : List JointOperation) :
    let ops₁ := ops.map JointOperation.first
    let ops₂ := ops.map JointOperation.second
    c₁.answers ops₁ = c₂.answers ops₂ ∧
    (c₁.after ops₁).active = (c₂.after ops₂).active ∧
    (c₁.issued ops₁).map Directive.hideReached = (c₂.issued ops₂).map Directive.hideReached ∧
    (LedgerStore.read s₁ sc.config.ledgerKey = LedgerStore.read s₂ sc.config.ledgerKey →
      (∀ op ∈ ops, op.now₁ = op.now₂) →
      c₁.issued ops₁ = c₂.issued ops₂ ∧ (c₁.after ops₁).ledger = (c₂.after ops₂).ledger) := by
  obtain ⟨hsc₁, rfl, -, hactive₁, hledger₁⟩ := eq_of_hydrate h₁
  obtain ⟨hsc₂, rfl, -, hactive₂, hledger₂⟩ := eq_of_hydrate h₂
  have hactive : c₁.active = c₂.active := hactive₁.trans hactive₂.symm
  intro ops₁ ops₂
  -- The ledgers may differ in all but the number of endings that the story has.
  have htotal : c₁.ledger.total = c₂.ledger.total := by
    rw [Ledger.total, Ledger.total, (Ledger.seeded_of_hydrate hledger₁).story_eq,
      (Ledger.seeded_of_hydrate hledger₂).story_eq]
  have hlockstep : ∀ op ∈ ops, Lockstep sc op.now₁ op.now₂
      (@AskedAlike σ₁ σ₂ _ _ Directive.hideReached)
      fun (l : Ledger) (_ : τ₁) (m : Ledger) (_ : τ₂) => l.total = m.total := by
    intro op _
    apply lockstep_asked
    · intro l _ m _ h
      simp only [Directive.hideReached, h]
    · intro l _ m _ _ _ h
      exact h
  obtain ⟨hanswers, hissued, hactives, -⟩ :=
    issued_alike ops hlockstep ⟨hsc₁, hsc₂, hactive, hp, htotal⟩
  refine ⟨hanswers, hactives, hissued, ?_⟩
  intro hread hclocks
  have hledger : c₁.ledger = c₂.ledger := by
    rw [Ledger.hydrate, hread] at hledger₁
    exact Except.ok.inj (hledger₁.symm.trans hledger₂)
  have hlockstep : ∀ op ∈ ops, Lockstep sc op.now₁ op.now₂ (@AskedAlike σ₁ σ₂ _ _ id)
      fun (l : Ledger) (_ : τ₁) (m : Ledger) (_ : τ₂) => l = m := by
    intro op hop
    apply lockstep_asked
    · rintro l _ _ _ rfl
      rfl
    · rintro l _ _ _ name outcome rfl
      rw [hclocks op hop]
  obtain ⟨-, hissued, -, hledgers⟩ :=
    issued_alike ops hlockstep ⟨hsc₁, hsc₂, hactive, hp.same, hledger⟩
  rw [List.map_id, List.map_id] at hissued
  exact ⟨hissued, hledgers⟩

/-- A play begins with what is stored. -/
theorem hydrate_of_stored {σ τ : Type} [LedgerStore τ] {sc : Scenario} {presenter : σ} {store : τ}
    {saved : Save} (h : LedgerStore.read store sc.config.ledgerKey = .ok (some saved.encode)) :
    hydrate sc presenter store =
      .ok ⟨sc, presenter, store, (Ledger.ofStory sc.story).load saved, none⟩ := by
  rw [hydrate, Ledger.hydrate, h]
  simp only [Save.decode_encode]

/-- A save in which the ending of the brief story was reached. -/
def homecoming : Save :=
  .ofList [("Home", { reached := true, outcome := some "Good-End" })]

/-- A store that has some texts and takes no other. -/
def sealedStore (texts : List (String × String)) : FaultyStore MemoryStore where
  inner := ⟨.ofList texts⟩
  failsRead := false
  failsWrite _ := true

/-- A reader who looks at the screen of an ending before reaching it; the two clocks differ. -/
def peeking : List JointOperation :=
  let today : Instant := ⟨⟨2023, 7, 14, by decide⟩, 30600, 0, by decide⟩
  let later : Instant := ⟨⟨2025, 3, 1, by decide⟩, 62400, 0, by decide⟩
  [.start, .switchTo (.gameOver ⟨"Good-End", "Safe and sound.", "Home"⟩), .dispatch .restart,
    .dispatch (.passage 2)].map fun op => ⟨op, today, later⟩

/--
A save and a store that fails are noticed in nothing but the number of endings reached; and where both
stores are empty, in nothing.
-/
theorem indistinguishable_after_peeking :
    let hesitant := Recorder.refusingAt [(.exit .prompts, 1)]
    let c := brief hesitant MemoryStore.empty
    let c₁ := brief hesitant (sealedStore [])
    let c₂ := { brief hesitant (sealedStore [("endings", homecoming.encode)]) with
      ledger := (Ledger.ofStory .brief).load homecoming }
    (c.answers (peeking.map JointOperation.first) = c₂.answers (peeking.map JointOperation.second) ∧
      (c.issued (peeking.map JointOperation.first)).map Directive.hideReached =
        (c₂.issued (peeking.map JointOperation.second)).map Directive.hideReached ∧
      c.issued (peeking.map JointOperation.first) ≠ c₂.issued (peeking.map JointOperation.second)) ∧
    c.issued Operation.brief = c₁.issued Operation.brief ∧
      (c.after Operation.brief).ledger = (c₁.after Operation.brief).ledger := by
  intro hesitant c c₁ c₂
  have hfresh := Recorder.answersBy_of_fresh (r := hesitant) rfl
  have halike := hfresh.answerAlike hfresh
  have hc : hydrate .brief hesitant MemoryStore.empty = .ok c := rfl
  have hc₁ : hydrate .brief hesitant (sealedStore []) = .ok c₁ := rfl
  have hc₂ : hydrate .brief hesitant (sealedStore [("endings", homecoming.encode)]) = .ok c₂ :=
    hydrate_of_stored rfl
  obtain ⟨hanswers, -, hissued, -⟩ := indistinguishable_after halike hc hc₂ peeking
  obtain ⟨-, -, -, hsame⟩ := indistinguishable_after halike hc hc₁ (Operation.brief.map .shared)
  refine ⟨⟨hanswers, hissued, by decide +kernel⟩, ?_⟩
  rw [JointOperation.map_first_shared, JointOperation.map_second_shared] at hsame
  apply hsame rfl
  intro op hop
  obtain ⟨op, -, rfl⟩ := List.mem_map.1 hop
  rfl

end Controller

end VisualNovel
