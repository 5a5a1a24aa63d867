/-
  VisualNovel.Proofs.Scene.ProgressReports

  What the screens of endings report over a run. An ending is noted in the ledger
  and then reported, and nothing else changes the counts. So from report to report
  the number of endings reached goes up by one or stays, and after a run the ledger
  has the number that was reported last (`Reported`). Each operation leaves a log
  for which this is so (`tells_operate`), and logs of this kind join
  (`Reported.trans`).
-/

import VisualNovel.Proofs.Ledger.Growth
import VisualNovel.Proofs.Scene.Trace
import VisualNovel.Proofs.Stage.Controls

namespace VisualNovel

open Presenter (Acknowledges)
open Time (Instant)

/-! ## Reports -/

/-- How many endings of how many are reached, if this is what is shown. -/
def Display.progress? : Display → Option (Nat × Nat)
  | .endingsProgress reached total => some (reached, total)
  | _ => none

namespace Directive

/-- The progress that was shown, in order. -/
def reports (log : List Directive) : List (Nat × Nat) :=
  log.filterMap (shown? Display.progress?)

@[simp] theorem reports_nil : reports [] = [] := rfl

theorem reports_append (log log' : List Directive) : reports (log ++ log') = reports log ++ reports log' :=
  List.filterMap_append

end Directive

open Directive (reports reports_append)

/-- A scene that is left reports nothing. -/
theorem Controller.reports_exitScript {σ τ : Type} (c : Controller σ τ) : reports c.exitScript = [] := by
  rw [exitScript]
  cases c.active with
  | none => rfl
  | some scene => cases scene <;> rfl

/-- The screen of an ending is all that reports anything. -/
theorem Scenario.reports_script (sc : Scenario) (reached total : Nat) (p : Passage) :
    reports (sc.script reached total p) = if p.isEnding then [(reached, total)] else [] := by
  rw [script]
  split
  · rfl
  · split <;> rfl

/-! ## Consistent logs -/

/-- What was logged while one ledger became another reports how its counts went on. -/
structure Reported (before after : Ledger) (log : List Directive) : Prop where
  total_eq : after.total = before.total
  /-- Every report has the ledger's total. -/
  totals : ∀ report ∈ reports log, report.2 = before.total
  le_total : ∀ report ∈ reports log, report.1 ≤ report.2
  /-- Each report has as many endings as the one before, or one more; the first as the ledger before. -/
  chain : (before.reachedCount :: (reports log).map (·.1)).IsChain fun r r' => r' = r ∨ r' = r + 1
  /-- The ledger is left as it was last reported. -/
  reachedCount_eq : after.reachedCount = ((reports log).map (·.1)).getLastD before.reachedCount

namespace Reported

variable {l m n : Ledger} {log log' : List Directive}

theorem silent (l : Ledger) (h : reports log = []) : Reported l l log where
  total_eq := rfl
  totals := by simp [h]
  le_total := by simp [h]
  chain := by simp [h]
  reachedCount_eq := by simp [h]

theorem single (h : reports log = [(m.reachedCount, m.total)]) (htotal : m.total = l.total)
    (hcount : m.reachedCount = l.reachedCount ∨ m.reachedCount = l.reachedCount + 1) :
    Reported l m log where
  total_eq := htotal
  totals := by simp [h, htotal]
  le_total := by simp [h, m.reachedCount_le_total]
  chain := by simp [h, hcount]
  reachedCount_eq := by simp [h]

/-- A chain goes on from its last element. -/
theorem isChain_cons_append {α : Type} {R : α → α → Prop} {a : α} {as bs : List α}
    (has : (a :: as).IsChain R) (hbs : (as.getLastD a :: bs).IsChain R) : (a :: (as ++ bs)).IsChain R := by
  induction as generalizing a with
  | nil => exact hbs
  | cons a' as ih =>
    obtain ⟨hstep, hrest⟩ := List.isChain_cons_cons.1 has
    rw [List.getLastD_cons] at hbs
    exact List.isChain_cons_cons.2 ⟨hstep, ih hrest hbs⟩

theorem trans (h : Reported l m log) (h' : Reported m n log') : Reported l n (log ++ log') where
  total_eq := h'.total_eq.trans h.total_eq
  totals := by
    rw [reports_append, List.forall_mem_append]
    exact ⟨h.totals, fun report hreport => (h'.totals report hreport).trans h.total_eq⟩
  le_total := by
    rw [reports_append, List.forall_mem_append]
    exact ⟨h.le_total, h'.le_total⟩
  chain := by
    rw [reports_append, List.map_append]
    exact isChain_cons_append h.chain (h.reachedCount_eq ▸ h'.chain)
  reachedCount_eq := by
    rw [reports_append, List.map_append, List.getLastD_eq_getLast?, List.getLast?_append,
      Option.getD_or, ← List.getLastD_eq_getLast?, ← List.getLastD_eq_getLast?, ← h.reachedCount_eq]
    exact h'.reachedCount_eq

/-- The last report, or else the ledger before, has the counts of the ledger after. -/
theorem getLastD_eq (h : Reported l m log) :
    (reports log).getLastD (l.reachedCount, l.total) = (m.reachedCount, m.total) := by
  have hcount := h.reachedCount_eq
  rw [List.getLastD_eq_getLast?, List.getLast?_map] at hcount
  rw [List.getLastD_eq_getLast?]
  cases hlast : (reports log).getLast? with
  | none =>
    rw [hlast] at hcount
    exact Prod.ext hcount.symm h.total_eq.symm
  | some report =>
    rw [hlast] at hcount
    have htotal := h.totals report (List.mem_of_getLast? hlast)
    exact Prod.ext hcount.symm (htotal.trans h.total_eq.symm)

end Reported

namespace Controller

variable {σ τ : Type}

/-! ## What operations report -/

/-- One play became the other by asking for a log, which reports how the ledger went on. -/
structure Tells [Presenter σ] (c c' : Controller σ τ) (log : List Directive) : Prop where
  presenter_eq : c'.presenter = log.foldl Presenter.ask c.presenter
  reported : Reported c.ledger c'.ledger log

section Presenting

variable [Presenter σ] {c c' c'' : Controller σ τ} {log log' : List Directive}

theorem Tells.refl (c : Controller σ τ) : c.Tells c [] :=
  ⟨rfl, .silent _ rfl⟩

theorem Tells.trans (h : c.Tells c' log) (h' : c'.Tells c'' log') : c.Tells c'' (log ++ log') where
  presenter_eq := by rw [List.foldl_append, ← h.presenter_eq, h'.presenter_eq]
  reported := h.reported.trans h'.reported

/-- A presentation that refuses nothing still does. -/
theorem Tells.acknowledges (h : c.Tells c' log) (hp : Acknowledges c.presenter) :
    Acknowledges c'.presenter :=
  h.presenter_eq ▸ hp.foldl_ask log

/-- Where all is noted, the notes are what was told. -/
theorem Tells.notes_eq {c c' : Controller (Watched σ (List Directive)) τ} {log : List Directive}
    (h : c.Tells c' log) (hnote : c.presenter.note = Watched.jot) :
    c'.presenter.notes = c.presenter.notes ++ log ∧ c'.presenter.note = Watched.jot := by
  rw [h.presenter_eq, Watched.foldl_ask, hnote]
  exact ⟨Watched.foldl_jot .., rfl⟩

/-- A script that is asked for as a whole. -/
theorem tells_enact (hp : Acknowledges c.presenter) {log : List Directive}
    (h : Reported c.ledger c.ledger log) (scene : Scene) {α : Type} (answer : α) :
    c.Tells (c.enact log scene answer).2 log := by
  rw [enact_of_acknowledges hp]
  exact ⟨rfl, h⟩

end Presenting

/-- An ending is noted once and reported once. -/
theorem reported_noting [LedgerStore τ] (c : Controller σ τ) (p : Passage) (now : Instant) :
    Reported c.ledger (c.noting p now).ledger
      (c.scenario.script (c.noting p now).ledger.reachedCount (c.noting p now).ledger.total p) := by
  have hreports := c.scenario.reports_script (c.noting p now).ledger.reachedCount
    (c.noting p now).ledger.total p
  cases hend : p.isEnding with
  | false =>
    rw [if_neg (by simp [hend])] at hreports
    rw [noting_of_not_ending hend] at hreports ⊢
    exact .silent _ hreports
  | true =>
    rw [if_pos hend] at hreports
    obtain ⟨o, ho, hcat⟩ := Passage.isEnding_eq_true_iff.1 hend
    rw [noting_of_ending ho hcat] at hreports ⊢
    exact .single hreports rfl (c.ledger.reachedCount_markReached_cases p.name (some o.tag) now)

section Playing

variable [Presenter σ] [LedgerStore τ] {c : Controller σ τ}

theorem tells_arrive (hp : Acknowledges c.presenter) (p : Passage) (now : Instant) (scene : Scene)
    {α : Type} (answer : α) :
    c.Tells
      ((c.noting p now).enact
        (c.scenario.script (c.noting p now).ledger.reachedCount (c.noting p now).ledger.total p)
        scene answer).2
      (c.scenario.script (c.noting p now).ledger.reachedCount (c.noting p now).ledger.total p) := by
  have hpresenter := (c.noting_eq p now).2
  have hnoted : Acknowledges (c.noting p now).presenter := hpresenter ▸ hp
  rw [enact_of_acknowledges hnoted]
  refine ⟨?_, c.reported_noting p now⟩
  rw [← hpresenter]
  rfl

theorem tells_switchTo (hp : Acknowledges c.presenter) (target : SceneTarget) (now : Instant) :
    ∃ log, c.Tells (c.switchTo target now).2 log := by
  by_cases hscene : c.activeScene = some target.id
  · rw [switchTo, if_pos hscene]
    exact ⟨[], .refl c⟩
  cases target with
  | splash =>
    rw [switchTo_splash hscene]
    refine ⟨_, tells_enact hp (.silent _ ?_) .splash ()⟩
    rw [reports_append, reports_exitScript]
    rfl
  | gameOver e =>
    -- The screen is entered by itself: it reports the ledger as it stands.
    rw [switchTo_gameOver hscene]
    refine ⟨_, tells_enact hp (.single ?_ rfl (.inl rfl)) (.gameOver e) ()⟩
    rw [reports_append, reports_exitScript]
    rfl
  | prompts v =>
    have hall := askAll_of_acknowledges (c := c.vacated) hp (c.exitScript ++ [.transition (.enter .prompts)])
    have hentered : c.Tells (c.vacated.asked (c.exitScript ++ [.transition (.enter .prompts)]))
        (c.exitScript ++ [.transition (.enter .prompts)]) := by
      refine ⟨rfl, .silent _ ?_⟩
      rw [reports_append, reports_exitScript]
      rfl
    rw [switchTo_prompts_arrive hscene, hall, Reply.andThen_ok]
    exact ⟨_, hentered.trans (tells_arrive (hentered.acknowledges hp) _ now _ ())⟩

theorem tells_start (hp : Acknowledges c.presenter) (now : Instant) :
    ∃ log, c.Tells (c.start now).2 log := by
  have htells : c.Tells (c.asked [.transition .prepare]) [.transition .prepare] := ⟨rfl, .silent _ rfl⟩
  obtain ⟨log, hlog⟩ := tells_switchTo (htells.acknowledges hp) .splash now
  rw [start, perform_of_acknowledges hp, Reply.andThen_ok]
  exact ⟨_, htells.trans hlog⟩

theorem tells_dispatch (hp : Acknowledges c.presenter) (choice : UserChoice) (now : Instant) :
    ∃ log, c.Tells (c.dispatch choice now).2 log := by
  rcases c.dispatch_cases choice now with ⟨-, hd⟩ | ⟨s, id, e, -, -, -, hd⟩ | ⟨v, -, -, -, hd⟩ |
    ⟨s, id, p, c', -, -, -, rfl, hd⟩
  · rw [hd]
    exact ⟨[], .refl c⟩
  · rw [hd]
    exact ⟨[], .refl c⟩
  · rw [hd, Reply.snd_andThen]
    exact tells_switchTo hp (.prompts v) now
  · rw [hd]
    exact ⟨_, tells_arrive hp p now _ _⟩

/-- **Every operation reports the counts as they go on.** -/
theorem tells_operate (hp : Acknowledges c.presenter) (op : Operation) (now : Instant) :
    ∃ log, c.Tells (c.operate op now).2 log := by
  cases op with
  | start =>
    rw [operate, Reply.snd_andThen]
    exact tells_start hp now
  | dispatch choice =>
    rw [operate_dispatch]
    exact tells_dispatch hp choice now
  | switchTo target =>
    rw [operate, Reply.snd_andThen]
    exact tells_switchTo hp target now

/-! ## Runs -/

theorem tells_after (hp : Acknowledges c.presenter) (ops : List (Operation × Instant)) :
    ∃ log, c.Tells (c.after ops) log := by
  induction ops generalizing c with
  | nil => exact ⟨[], .refl c⟩
  | cons op ops ih =>
    obtain ⟨log, hlog⟩ := tells_operate hp op.1 op.2
    obtain ⟨log', hlog'⟩ := ih (hlog.acknowledges hp)
    exact ⟨_, hlog.trans hlog'⟩

/-- What a run issues reports how its ledger goes on, if nothing is refused. -/
theorem reported_issued (hp : Acknowledges c.presenter) (ops : List (Operation × Instant)) :
    Reported c.ledger (c.after ops).ledger (c.issued ops) := by
  obtain ⟨log, hlog⟩ := tells_after (c := c.watched Watched.jot []) (hp.watched Watched.jot []) ops
  have hnotes : c.issued ops = log := (hlog.notes_eq rfl).1
  rw [hnotes, ← (c.after_watched Watched.jot [] ops).2]
  exact hlog.reported

end Playing

end Controller

end VisualNovel
