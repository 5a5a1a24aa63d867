/-
  VisualNovel.Proofs.Scene.Protocol

  How scenes are entered and left, whatever the presentation refuses. The journal
  of a play is `Orderly`: each exit belongs to the entry right before it, and a
  scene is entered on top of another one only after an exit was refused. One
  lemma for each kind of call says how it changes the scene that is open; the
  moves of the controller are then read off.
-/

import VisualNovel.Proofs.Scene.Operations
import VisualNovel.Proofs.Stage.Journal
import VisualNovel.Stage.Recorder
import VisualNovel.Store.Memory

namespace VisualNovel

open Call (log)
open Time (Instant)

/--
The order of the calls of a play, latest first, with its active scene. The log has the entries and
exits that were acknowledged.
-/
structure Orderly (calls : List Call) (active : Option SceneId) : Prop where
  /-- Right before an exit the log has the entry of the same scene. -/
  exits : ∀ later earlier scene, calls = later ++ ⟨.exit scene, true⟩ :: earlier →
    (log earlier).head? = some (.enter scene)
  /-- While a scene is active, its entry is last in the log. -/
  inside : ∀ scene, active = some scene → (log calls).head? = some (.enter scene)
  /-- Between two entries that are next to each other in the log an exit was refused. -/
  entries : ∀ later between earlier scene scene',
    calls = later ++ ⟨.enter scene', true⟩ :: (between ++ ⟨.enter scene, true⟩ :: earlier) →
    log between = [] → ∃ left, (⟨.exit left, false⟩ : Call) ∈ between
  /--
  While no scene is active, the log is empty, or it ends in an exit, or an exit was refused since its
  last entry.
  -/
  outside : active = none → log calls = [] ∨ (∃ scene, (log calls).head? = some (.exit scene)) ∨
    ∃ since scene earlier, calls = since ++ ⟨.enter scene, true⟩ :: earlier ∧ log since = [] ∧
      ∃ left, (⟨.exit left, false⟩ : Call) ∈ since

namespace Orderly

variable {calls : List Call} {active : Option SceneId} {scene : SceneId}

theorem nil : Orderly [] none where
  exits later earlier scene h := by
    cases later <;> cases h
  inside scene h := by cases h
  entries later between earlier scene scene' h := by
    cases later <;> cases h
  outside _ := .inl rfl

/-! ## One call more -/

/-- A call that is not logged changes nothing. -/
theorem unlogged (h : Orderly calls active) {c : Call} (hc : c.isLogged = false) :
    Orderly (c :: calls) active where
  -- The call is not an acknowledged entry or exit, so those are all found behind it.
  exits later earlier scene hcalls := by
    cases later with
    | nil =>
      obtain ⟨rfl, -⟩ := List.cons.inj hcalls
      cases hc
    | cons d later => exact h.exits later earlier scene (List.cons.inj hcalls).2
  inside scene hscene := by
    rw [Call.log_cons_of_not_logged hc]
    exact h.inside scene hscene
  entries later between earlier scene scene' hcalls hbetween := by
    cases later with
    | nil =>
      obtain ⟨rfl, -⟩ := List.cons.inj hcalls
      cases hc
    | cons d later => exact h.entries later between earlier scene scene' (List.cons.inj hcalls).2 hbetween
  outside hnone := by
    rw [Call.log_cons_of_not_logged hc]
    rcases h.outside hnone with hlog | hlog | ⟨since, scene, earlier, rfl, hsince, left, hleft⟩
    · exact .inl hlog
    · exact .inr (.inl hlog)
    · refine .inr (.inr ⟨c :: since, scene, earlier, rfl, ?_, left, List.mem_cons_of_mem c hleft⟩)
      rw [Call.log_cons_of_not_logged hc]
      exact hsince

/-- With no scene active any scene may be entered. -/
theorem enter (h : Orderly calls none) (scene : SceneId) :
    Orderly (⟨.enter scene, true⟩ :: calls) (some scene) where
  exits later earlier left hcalls := by
    cases later with
    | nil => cases (List.cons.inj hcalls).1
    | cons d later => exact h.exits later earlier left (List.cons.inj hcalls).2
  inside other hother := by
    cases hother
    rw [Call.log_cons_of_logged rfl]
    rfl
  entries later between earlier former other hcalls hbetween := by
    cases later with
    | cons d later => exact h.entries later between earlier former other (List.cons.inj hcalls).2 hbetween
    | nil =>
      -- The new entry is the later one of the two, so the log ended in the earlier one.
      obtain ⟨-, rfl⟩ := List.cons.inj hcalls
      have hlog : log (between ++ ⟨.enter former, true⟩ :: earlier) = .enter former :: log earlier := by
        have hlater : log (between ++ ⟨.enter former, true⟩ :: earlier) =
            log between ++ log (⟨.enter former, true⟩ :: earlier) := by
          simp only [log, List.filter_append, List.map_append]
        rw [hlater, hbetween, Call.log_cons_of_logged rfl]
        rfl
      rcases h.outside rfl with hempty | ⟨left, hleft⟩ | ⟨since, other, earlier', hsplit, hsince, hleft⟩
      · rw [hlog] at hempty
        cases hempty
      · rw [hlog] at hleft
        cases hleft
      · rw [Call.unlogged_unique hsplit rfl rfl hbetween hsince]
        exact hleft
  outside hnone := by cases hnone

/-- The active scene is left. -/
theorem exit (h : Orderly calls (some scene)) : Orderly (⟨.exit scene, true⟩ :: calls) none where
  exits later earlier left hcalls := by
    cases later with
    | nil =>
      obtain ⟨hleft, rfl⟩ := List.cons.inj hcalls
      cases hleft
      exact h.inside scene rfl
    | cons d later => exact h.exits later earlier left (List.cons.inj hcalls).2
  inside other hother := by cases hother
  entries later between earlier former other hcalls hbetween := by
    cases later with
    | nil => cases (List.cons.inj hcalls).1
    | cons d later => exact h.entries later between earlier former other (List.cons.inj hcalls).2 hbetween
  outside _ := by
    refine .inr (.inl ⟨scene, ?_⟩)
    rw [Call.log_cons_of_logged rfl]
    rfl

/-- The active scene is given up, although its exit is refused. -/
theorem exit_refused (h : Orderly calls (some scene)) :
    Orderly (⟨.exit scene, false⟩ :: calls) none := by
  have hkept : Orderly (⟨.exit scene, false⟩ :: calls) (some scene) := h.unlogged rfl
  refine ⟨hkept.exits, by nofun, hkept.entries, ?_⟩
  intro _
  -- The entry of the scene is still last in the log, and its exit has been refused since.
  obtain ⟨since, earlier, rfl, hsince⟩ := Call.exists_of_log_head? (h.inside scene rfl)
  refine .inr (.inr ⟨⟨.exit scene, false⟩ :: since, scene, earlier, rfl, ?_, scene, List.mem_cons_self⟩)
  rw [Call.log_cons_of_not_logged rfl]
  exact hsince

end Orderly

/-! ## The moves of a play -/

namespace Controller

variable {σ τ : Type} [Presenter σ] {sc : Scenario} {c : Controller (Journal σ) τ}

/-- The play is one of the scenario, and its calls are in order with some scene taken as active. -/
def InOrder (sc : Scenario) (active : Option SceneId) (c : Controller (Journal σ) τ) : Prop :=
  c.scenario = sc ∧ Orderly c.presenter.calls active

theorem InOrder.prepare (h : c.InOrder sc c.activeScene) : (c.perform .prepare).Ensures
    (fun _ c' => c'.InOrder sc c'.activeScene) (fun _ c' => c'.InOrder sc c'.activeScene) := by
  obtain ⟨hsc, horderly⟩ := h
  apply perform_ensures
  · intro p hp
    refine ⟨hsc, ?_⟩
    show Orderly p.calls c.activeScene
    rw [Journal.calls_perform hp]
    exact horderly.unlogged rfl
  · intro e p hp
    refine ⟨hsc, ?_⟩
    show Orderly p.calls c.activeScene
    rw [Journal.calls_perform hp]
    exact horderly.unlogged rfl

theorem InOrder.leave (h : c.InOrder sc c.activeScene) : c.leave.Ensures
    (fun _ c' => c'.active = none ∧ c'.InOrder sc none) (fun _ c' => c'.InOrder sc c'.activeScene) := by
  obtain ⟨hsc, horderly⟩ := h
  apply leave_ensures
  · intro hnone
    rw [activeScene, hnone] at horderly
    exact ⟨hnone, hsc, horderly⟩
  · intro scene p hscene hp
    rw [activeScene, hscene] at horderly
    refine ⟨rfl, hsc, ?_⟩
    show Orderly p.calls none
    rw [Journal.calls_perform_foldl_display hp]
    exact horderly.exit
  · intro scene e p hscene hp
    rw [activeScene, hscene] at horderly
    refine ⟨hsc, ?_⟩
    show Orderly p.calls none
    rw [Journal.calls_perform_foldl_display hp]
    exact horderly.exit_refused

theorem InOrder.enterScene (h : c.InOrder sc none) (hnone : c.active = none) (ds : List Display)
    (scene : Scene) : (c.enterScene ds scene).Ensures
    (fun _ c' => c'.InOrder sc c'.activeScene) (fun _ c' => c'.InOrder sc c'.activeScene) := by
  obtain ⟨hsc, horderly⟩ := h
  apply enterScene_ensures
  · intro p hp
    refine ⟨hsc, ?_⟩
    show Orderly p.calls (some scene.id)
    rw [Journal.calls_perform_foldl_display hp]
    exact horderly.enter scene.id
  · intro e p hp
    refine ⟨hsc, ?_⟩
    show Orderly p.calls c.activeScene
    rw [Journal.calls_perform_foldl_display hp, activeScene, hnone]
    exact horderly.unlogged rfl

/-- Once the prompts are entered they are open, before there is a session. -/
theorem InOrder.enterPrompts (h : c.InOrder sc none) (hnone : c.active = none) :
    (c.perform (.enter .prompts)).Ensures (fun _ c' => c'.InOrder sc (some .prompts))
      (fun _ c' => c'.InOrder sc c'.activeScene) := by
  obtain ⟨hsc, horderly⟩ := h
  apply perform_ensures
  · intro p hp
    refine ⟨hsc, ?_⟩
    show Orderly p.calls (some .prompts)
    rw [Journal.calls_perform hp]
    exact horderly.enter .prompts
  · intro e p hp
    refine ⟨hsc, ?_⟩
    show Orderly p.calls c.activeScene
    rw [Journal.calls_perform hp, activeScene, hnone]
    exact horderly.unlogged rfl

/-! ## Runs -/

/-- **The protocol of scenes.** The journal of a play is orderly after any operations. -/
theorem orderly_after [LedgerStore τ] (hactive : c.active = none) (hcalls : c.presenter.calls = [])
    (ops : List (Operation × Instant)) :
    Orderly (c.after ops).presenter.calls (c.after ops).activeScene := by
  have hmoves : ∀ (op : Operation) (now : Instant), Moves (σ := Journal σ) (τ := τ) c.scenario op now
      (fun c' => c'.InOrder c.scenario c'.activeScene)
      (fun c' => c'.InOrder c.scenario c'.activeScene)
      (fun c' => c'.active = none ∧ c'.InOrder c.scenario none)
      (fun _ c' => c'.InOrder c.scenario (some .prompts))
      (fun _ c' => c'.InOrder c.scenario c'.activeScene) := by
    intro op now
    constructor
    case scenario => exact fun c' hc' => hc'.1
    case prepare => exact fun c' hc' => hc'.prepare
    case leaves => exact fun c' hc' => hc'
    case leave => exact fun c' hc' => hc'.leave
    case enterScene => exact fun c' ds scene hc' _ => hc'.2.enterScene hc'.1 ds scene
    case enterPrompts =>
      rintro c' ⟨hnone, hc'⟩
      exact (hc'.enterPrompts hnone).mono (fun _ _ h => ⟨h.1, h⟩) fun _ _ h => h
    case arrives =>
      intro c' s hc' hscene
      rw [activeScene, hscene] at hc'
      exact hc'
    case stay =>
      rintro c' s id p ⟨hsc, horderly⟩ - - - ds
      rw [displayAll_eq]
      refine ⟨hsc, ?_⟩
      show Orderly (ds.foldl Presenter.display c'.presenter).calls (some .prompts)
      rw [Journal.calls_foldl_display]
      exact horderly
    case finish => exact fun c' s id p o hc' _ _ _ _ => hc'
    case refuse => exact fun c' s id e _ hc' _ _ => hc'
  have hbegin : c.InOrder c.scenario c.activeScene := by
    refine ⟨rfl, ?_⟩
    rw [hcalls, activeScene, hactive]
    exact .nil
  exact (after_of_moves hmoves (fun _ _ _ hc' => hc') hbegin ops).2

/-- An exit and an entry are refused on the way. -/
theorem orderly_after_refusals :
    let journal : Journal Recorder := ⟨.refusingAt [(.exit .prompts, 1), (.enter .gameOver, 1)], []⟩
    let c := (brief journal MemoryStore.empty).after Operation.brief
    Orderly c.presenter.calls c.activeScene :=
  orderly_after rfl rfl Operation.brief

end Controller

end VisualNovel
