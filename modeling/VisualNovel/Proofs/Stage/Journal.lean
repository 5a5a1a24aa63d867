/-
  VisualNovel.Proofs.Stage.Journal

  A presentation that is written down: every transition that it was asked for,
  with its answer, refusals included. The log of a journal has the acknowledged
  entries and exits only. `exists_of_log_head?` finds the call behind the latest
  of them, and `unlogged_unique` says that there is only one such place.
-/

import VisualNovel.Stage.Directive

namespace VisualNovel

/-- A transition that was asked for, and whether it was acknowledged. -/
structure Call where
  transition : Transition
  isAcknowledged : Bool
  deriving DecidableEq, Repr

/-- A presentation with the transitions it was asked for, latest first. -/
structure Journal (σ : Type) where
  inner : σ
  calls : List Call := []

/-! ## Writing down -/

namespace Journal

variable {σ : Type} [Presenter σ]

/-- Shows something; this is not written down. -/
def display (j : Journal σ) (d : Display) : Journal σ :=
  { j with inner := Presenter.display j.inner d }

/-- Passes a transition on and writes down the answer. -/
def perform (j : Journal σ) (t : Transition) : Except PresentationError Unit × Journal σ :=
  let (result, inner) := Presenter.perform j.inner t
  (result, ⟨inner, ⟨t, result.isOk⟩ :: j.calls⟩)

instance : Presenter (Journal σ) := ⟨display, perform⟩

theorem calls_perform {j j' : Journal σ} {t : Transition} {result : Except PresentationError Unit}
    (h : Presenter.perform j t = (result, j')) : j'.calls = ⟨t, result.isOk⟩ :: j.calls := by
  have hperform : j.perform t = (result, j') := h
  rw [perform] at hperform
  obtain ⟨rfl, rfl⟩ := Prod.mk.inj hperform
  rfl

theorem calls_foldl_display (ds : List Display) (j : Journal σ) :
    (ds.foldl Presenter.display j).calls = j.calls := by
  induction ds generalizing j with
  | nil => rfl
  | cons d ds ih => exact ih (j.display d)

/-- A transition adds one call, whatever was shown before it. -/
theorem calls_perform_foldl_display {ds : List Display} {j j' : Journal σ} {t : Transition}
    {result : Except PresentationError Unit}
    (h : Presenter.perform (ds.foldl Presenter.display j) t = (result, j')) :
    j'.calls = ⟨t, result.isOk⟩ :: j.calls := by
  rw [calls_perform h, calls_foldl_display]

end Journal

/-! ## The log -/

/-- Whether the call is an acknowledged entry or exit. -/
def Call.isLogged (c : Call) : Bool :=
  c.isAcknowledged && c.transition != .prepare

/-- The acknowledged entries and exits, latest first. -/
def Call.log (calls : List Call) : List Transition :=
  (calls.filter isLogged).map (·.transition)

namespace Call

theorem log_cons_of_logged {c : Call} (h : c.isLogged = true) (calls : List Call) :
    log (c :: calls) = c.transition :: log calls := by
  rw [log, List.filter_cons_of_pos h]
  rfl

theorem log_cons_of_not_logged {c : Call} (h : c.isLogged = false) (calls : List Call) :
    log (c :: calls) = log calls := by
  have hc : ¬ c.isLogged = true := by rw [h]; decide
  rw [log, List.filter_cons_of_neg hc]
  rfl

theorem not_logged_of_log_eq_nil {c : Call} {calls : List Call} (h : log (c :: calls) = []) :
    c.isLogged = false ∧ log calls = [] := by
  cases hc : c.isLogged with
  | true =>
    rw [log_cons_of_logged hc] at h
    cases h
  | false =>
    rw [log_cons_of_not_logged hc] at h
    exact ⟨rfl, h⟩

/-- What the log has last was acknowledged, and since then nothing else was logged. -/
theorem exists_of_log_head? {calls : List Call} {t : Transition} (h : (log calls).head? = some t) :
    ∃ since earlier, calls = since ++ ⟨t, true⟩ :: earlier ∧ log since = [] := by
  induction calls with
  | nil => cases h
  | cons c calls ih =>
    cases hc : c.isLogged with
    | true =>
      rw [log_cons_of_logged hc] at h
      obtain ⟨transition, isAcknowledged⟩ := c
      cases h
      have hack : isAcknowledged = true := (Bool.and_eq_true_iff.1 hc).1
      exact ⟨[], calls, by rw [hack]; rfl, rfl⟩
    | false =>
      rw [log_cons_of_not_logged hc] at h
      obtain ⟨since, earlier, rfl, hsince⟩ := ih h
      exact ⟨c :: since, earlier, rfl, (log_cons_of_not_logged hc since).trans hsince⟩

/-- There is one place only after which nothing was logged. -/
theorem unlogged_unique {since since' earlier earlier' : List Call} {c c' : Call}
    (h : since ++ c :: earlier = since' ++ c' :: earlier') (hc : c.isLogged = true)
    (hc' : c'.isLogged = true) (hsince : log since = []) (hsince' : log since' = []) :
    since = since' := by
  -- Walking down both lists, the logged call is met at the same place: no call before it is logged.
  induction since generalizing since' with
  | nil =>
    cases since' with
    | nil => rfl
    | cons d since' =>
      obtain ⟨rfl, -⟩ := List.cons.inj h
      rw [(not_logged_of_log_eq_nil hsince').1] at hc
      cases hc
  | cons d since ih =>
    cases since' with
    | nil =>
      obtain ⟨rfl, -⟩ := List.cons.inj h
      rw [(not_logged_of_log_eq_nil hsince).1] at hc'
      cases hc'
    | cons d' since' =>
      obtain ⟨rfl, hrest⟩ := List.cons.inj h
      rw [ih hrest (not_logged_of_log_eq_nil hsince).2 (not_logged_of_log_eq_nil hsince').2]

end Call

end VisualNovel
