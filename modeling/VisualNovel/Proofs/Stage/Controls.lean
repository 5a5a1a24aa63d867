/-
  VisualNovel.Proofs.Stage.Controls

  What a log of directives has left on screen. A later directive replaces an
  earlier one of its kind, so a control stands as the latest one says
  (`Directive.latest`). A log is `Cleared` if no choices are offered, the overlay
  is off, and every character animation was stopped. The farewell of the prompts
  clears any log, and `Quiet` directives leave a cleared log so.
-/

import VisualNovel.Stage.Directive

namespace VisualNovel

/-! ## The latest of a kind -/

/-- The choices, if these are what is shown. -/
def Display.choices? : Display → Option (List ChoiceItem)
  | .choices items => some items
  | _ => none

/-- The state of the overlay effect, if this is what is shown. -/
def Display.secondaryEffect? : Display → Option Bool
  | .secondaryEffect isOn => some isOn
  | _ => none

namespace Directive

variable {α : Type} {kind : Display → Option α}

/-- What a directive shows of a kind. -/
def shown? (kind : Display → Option α) : Directive → Option α
  | .display d => kind d
  | .transition _ => none

/-- The latest of a kind among some directives. -/
def latest (kind : Display → Option α) (log : List Directive) : Option α :=
  log.reverse.findSome? (shown? kind)

theorem latest_append (kind : Display → Option α) (log ds : List Directive) :
    latest kind (log ++ ds) = (latest kind ds).or (latest kind log) := by
  rw [latest, List.reverse_append, List.findSome?_append]
  rfl

/-- What is latest was shown. -/
theorem exists_mem_of_latest {ds : List Directive} {v : α} (h : latest kind ds = some v) :
    ∃ d, .display d ∈ ds ∧ kind d = some v := by
  obtain ⟨d, hd, hv⟩ := List.exists_of_findSome?_eq_some h
  cases d with
  | display d => exact ⟨d, List.mem_reverse.1 hd, hv⟩
  | transition t => cases hv

/-- Whether a directive brings nothing on screen that a reader could take for a control. -/
def isQuiet : Directive → Bool
  | .display (.animation _) => false
  | .display (.secondaryEffect isOn) => !isOn
  | .display (.choices items) => items.isEmpty
  | _ => true

end Directive

open Directive (latest)

/-! ## Cleared logs -/

/-- Nothing is left on screen of what was offered before. -/
structure Cleared (log : List Directive) : Prop where
  /-- The latest choices are none. -/
  choices : ∀ items, latest Display.choices? log = some items → items = []
  /-- The overlay effect was turned off last. -/
  secondaryEffect : ∀ isOn, latest Display.secondaryEffect? log = some isOn → isOn = false
  /-- Every animation is followed by a stop. -/
  animation : ∀ earlier selector later, log = earlier ++ .display (.animation selector) :: later →
    .display .stopAnimation ∈ later

namespace Cleared

variable {log ds : List Directive}

theorem nil : Cleared [] where
  choices items h := by cases h
  secondaryEffect isOn h := by cases h
  animation earlier selector later h := by cases earlier <;> cases h

/-- An animation in a log that went on without any is in the former part. -/
theorem exists_of_animation {earlier later : List Directive} {selector : String}
    (hds : .display (.animation selector) ∉ ds)
    (h : log ++ ds = earlier ++ .display (.animation selector) :: later) :
    ∃ since, log = earlier ++ .display (.animation selector) :: since ∧ later = since ++ ds := by
  rcases List.append_eq_append_iff.1 h with ⟨between, -, hbetween⟩ | ⟨between, hlog, hbetween⟩
  · rw [hbetween] at hds
    simp at hds
  · cases between with
    | nil =>
      rw [List.nil_append] at hbetween
      rw [← hbetween] at hds
      simp at hds
    | cons d since =>
      obtain ⟨rfl, hlater⟩ := List.cons.inj hbetween
      exact ⟨since, hlog, hlater⟩

/-- The farewell of the prompts clears the screen, whatever was on it. -/
theorem farewell (log : List Directive) :
    Cleared (log ++ [.display .stopAnimation, .display (.secondaryEffect false), .display (.choices [])]) where
  choices items h := by
    rw [Directive.latest_append] at h
    exact (Option.some.inj h).symm
  secondaryEffect isOn h := by
    rw [Directive.latest_append] at h
    exact (Option.some.inj h).symm
  animation earlier selector later h := by
    obtain ⟨since, -, rfl⟩ := exists_of_animation (by simp) h
    simp

/-- What is quiet leaves it cleared. -/
theorem append (h : Cleared log) (hds : ∀ d ∈ ds, d.isQuiet = true) : Cleared (log ++ ds) where
  choices items hitems := by
    rw [Directive.latest_append, Option.or_eq_some_iff] at hitems
    rcases hitems with hitems | ⟨-, hitems⟩
    · obtain ⟨d, hd, hkind⟩ := Directive.exists_mem_of_latest hitems
      have hquiet := hds _ hd
      cases d <;> cases hkind
      exact List.isEmpty_iff.1 hquiet
    · exact h.choices items hitems
  secondaryEffect isOn hisOn := by
    rw [Directive.latest_append, Option.or_eq_some_iff] at hisOn
    rcases hisOn with hisOn | ⟨-, hisOn⟩
    · obtain ⟨d, hd, hkind⟩ := Directive.exists_mem_of_latest hisOn
      have hquiet := hds _ hd
      cases d <;> cases hkind
      simpa [Directive.isQuiet] using hquiet
    · exact h.secondaryEffect isOn hisOn
  animation earlier selector later hlog := by
    have hnone : .display (.animation selector) ∉ ds := fun hd => by cases hds _ hd
    obtain ⟨since, hformer, rfl⟩ := exists_of_animation hnone hlog
    exact List.mem_append_left _ (h.animation earlier selector since hformer)

end Cleared

end VisualNovel
