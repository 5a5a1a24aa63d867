/-
  VisualNovel.Proofs.Command.EndingCounts

  How many endings the program says a story has. The report of a check counts the
  passages that end the story; whatever is told from a ledger counts their names.
  These are the same number just when no two of the passages share a name
  (`Story.card_endingNames_eq_iff`), and the check never shows fewer.
-/

import VisualNovel.Command.Check
import VisualNovel.Command.Endings
import VisualNovel.Proofs.Command.ClosingLine
import VisualNovel.Proofs.Ledger.Endings

namespace VisualNovel

open Directive (reports)
open Text (Palette)
open Time (Instant)

/-! ## Passages and names -/

namespace Story

theorem card_endingNames_le (s : Story) : s.endingNames.card ≤ s.endings.length := by
  have hle := List.toFinset_card_le (s.endings.map (·.name))
  rwa [List.length_map] at hle

/-- Endings are as many as their names if no name stands for two of them. -/
theorem card_endingNames_eq_iff (s : Story) :
    s.endingNames.card = s.endings.length ↔ (s.endings.map (·.name)).Nodup := by
  have hiff := Multiset.toFinset_card_eq_card_iff_nodup (m := (s.endings.map (·.name) : Multiset String))
  rwa [Multiset.coe_card, List.length_map, Multiset.coe_nodup] at hiff

end Story

/-! ## What is told from a ledger -/

namespace Ledger

variable {story : Story} {l : Ledger}

/-- Ledgers of one story have one total. -/
theorem Seeded.total_eq_ofStory (h : Seeded story l) : l.total = (ofStory story).total :=
  congrArg NameMap.size h.story_eq

end Ledger

namespace Command

/-- The report on a ledger ends with the number of its endings, or says that there are none. -/
theorem getLast?_endingsReport (p : Palette) (l : Ledger) :
    (endingsReport p l).getLast? =
      if l.total = 0 then some "  This story has no endings."
      else some ("  " ++ toString l.reachedCount ++ "/" ++ toString l.total ++ " endings reached") := by
  rw [endingsReport]
  split
  · rfl
  · rw [List.getLast?_append, List.getLast?_cons_cons]
    rfl

/-- Whatever is told from a ledger about the endings of a story has one total. -/
structure TellsTotal (story : Story) (total : Nat) : Prop where
  /-- The total of a hydrated ledger, whatever is marked and loaded. -/
  hydrated : ∀ {τ : Type} [LedgerStore τ] {store : τ} {key : String} {l : Ledger},
    Ledger.hydrate story store key = .ok l → ∀ us : List (Ledger.Update × Instant),
      (l.updateAll us).total = total
  /-- The report on a hydrated ledger. -/
  listed : ∀ {τ : Type} [LedgerStore τ] {store : τ} {key : String} {l : Ledger},
    Ledger.hydrate story store key = .ok l → ∀ p : Palette,
      (endingsReport p l).getLast? =
        if total = 0 then some "  This story has no endings."
        else some ("  " ++ toString l.reachedCount ++ "/" ++ toString total ++ " endings reached")
  /-- The screens of endings in a play. -/
  shown : ∀ {σ : Type} [Volume σ] {sc : Scenario} {terminal : Terminal} {store : FileStore σ} {c : Player σ},
    sc.story = story → Controller.hydrate sc terminal store = .ok c →
      ∀ (isScript : Bool) (lines : List InputLine) (now : Instant),
        ∀ report ∈ reports (c.overheard isScript lines now).presenter.notes, report.2 = total
  /-- The closing lines of a play. -/
  closing : ∀ {σ : Type} [Volume σ] {sc : Scenario} {terminal : Terminal} {store : FileStore σ} {c : Player σ},
    sc.story = story → Controller.hydrate sc terminal store = .ok c →
      ∀ (isScript : Bool) (lines : List InputLine) (now : Instant),
        let c' := (c.play isScript lines now).2
        c'.closingLines = ["", "  " ++ c'.presenter.palette.paint .bold "Endings found:" ++ " " ++
          (toString c'.ledger.reachedCount ++ "/" ++ toString total)]

theorem tellsTotal_ofStory (story : Story) : TellsTotal story (Ledger.ofStory story).total where
  hydrated hl us := ((Ledger.seeded_of_hydrate hl).updateAll us).total_eq_ofStory
  listed hl p := by
    rw [getLast?_endingsReport, (Ledger.seeded_of_hydrate hl).total_eq_ofStory]
  shown {_ _ _ _ _ c} hsc hc isScript lines now report hreport := by
    obtain ⟨-, -, -, -, hl⟩ := Controller.eq_of_hydrate hc
    have hreported := (c.overhears_overheard isScript lines now).reported
    rw [hreported.totals report hreport, (Ledger.seeded_of_hydrate hl).total_eq_ofStory, hsc]
  closing {_ _ _ _ _ c} hsc hc isScript lines now := by
    intro c'
    obtain ⟨-, -, -, -, hl⟩ := Controller.eq_of_hydrate hc
    have htotal : c'.ledger.total = (Ledger.ofStory story).total := by
      have hreported := (c.overhears_overheard isScript lines now).reported
      have hsame : (c.overheard isScript lines now).unwatched = c' := c.overheard_unwatched isScript lines now
      rw [← hsame, ← hsc, ← (Ledger.seeded_of_hydrate hl).total_eq_ofStory]
      exact hreported.total_eq
    rw [← htotal]
    rfl

/--
**A check counts the endings that are told of elsewhere, unless two of them share a name.** It counts the
passages that end the story; the ledger, the report on it, the screens and the closing lines count names.
-/
theorem check_agrees_iff (s : Story) :
    (∀ (p : Palette) (assets : Option AssetManifest), (checkReport p s assets).head? =
      some ("  " ++ toString s.size ++ " passages, " ++ toString s.endings.length ++ " endings")) ∧
    TellsTotal s (Ledger.ofStory s).total ∧
    (Ledger.ofStory s).total ≤ s.endings.length ∧
    ((Ledger.ofStory s).total = s.endings.length ↔ (s.endings.map (·.name)).Nodup) := by
  have htotal : (Ledger.ofStory s).total = s.endingNames.card := (Ledger.seeded_ofStory s).total_eq
  refine ⟨fun _ _ => rfl, tellsTotal_ofStory s, ?_, ?_⟩
  · rw [htotal]
    exact s.card_endingNames_le
  · rw [htotal]
    exact s.card_endingNames_eq_iff

/-- Of the twins a check counts both, and all else counts one. -/
theorem check_twins_disagrees :
    let l := Ledger.ofStory .twins
    let store : FileStore FileTree := ⟨FileTree.empty, "saves"⟩
    let terminal : Terminal := { assets := .empty, palette := .plain }
    Story.build Story.twins.passages 1 2 = .ok Story.twins ∧
    (checkReport .plain .twins none).head? = some "  2 passages, 2 endings" ∧
    Story.twins.endings.length = 2 ∧ l.total = 1 ∧
    (endingsReport .plain l).getLast? = some "  0/1 endings reached" ∧
    ∃ c : Player FileTree, Controller.hydrate ⟨.twins, .empty, {}⟩ terminal store = .ok c ∧
      reports (c.overheard true [.ok "s"] .newYear).presenter.notes = [(1, 1)] ∧
      (c.play true [.ok "s"] .newYear).2.closingLines = ["", "  Endings found: 1/1"] := by
  refine ⟨rfl, by decide +kernel, by decide +kernel, by decide +kernel, by decide +kernel, ?_⟩
  exact ⟨_, rfl, by decide +kernel, by decide +kernel⟩

end Command

end VisualNovel
