/-
  VisualNovel.Proofs.Session

  What an arrival can do, said once: at an ending it notes the ending and keeps
  the position, anywhere else it moves the position and leaves the ledger alone.
  `choose_cases` and `begin_eq` say which passage a session arrives at. A session
  that is live stands at a passage of the story that is no ending and has met
  nothing but paths (`Live`).
-/

import VisualNovel.Proofs.Story.Lookup
import VisualNovel.Session

namespace VisualNovel

open Time (Instant)

/-! ## Arriving -/

namespace Scenario

/-- The step of an ending. -/
theorem stepOf_of_ending {sc : Scenario} {p : Passage} {o : Outcome} (h : p.outcome = some o)
    (ho : o.category = .ending) : sc.stepOf p = .ending (sc.ending p o) := by
  simp only [stepOf, h, ho]

/-- Any other passage is shown, or is a menu. -/
theorem stepOf_ne_ending {sc : Scenario} {p : Passage} (h : p.isEnding = false) (e : Ending) :
    sc.stepOf p ≠ .ending e := by
  rw [stepOf]
  split
  · next o ho =>
    split
    · next hcat =>
      have : p.isEnding = true := Passage.isEnding_eq_true_iff.2 ⟨o, ho, hcat⟩
      rw [h] at this
      cases this
    · nofun
    · nofun
  · nofun

end Scenario

namespace Session

variable {sc : Scenario} {s : Session} {l : Ledger} {p : Passage} {now : Instant}

/-- The tally after arriving at a passage. -/
def tallyAt (s : Session) (p : Passage) : Tally :=
  match p.outcome with
  | some o => s.tally.record o
  | none => s.tally

/-- An arrival at an ending is noted in the ledger and keeps the position. -/
theorem arrive_of_ending {o : Outcome} (h : p.outcome = some o) (ho : o.category = .ending) :
    s.arrive sc l p now =
      ⟨.ending (sc.ending p o), ⟨s.current, s.tallyAt p⟩, l.markReached p.name (some o.tag) now⟩ := by
  rw [arrive, Scenario.stepOf_of_ending h ho]
  rfl

/-- An arrival anywhere else moves the position and leaves the ledger alone. -/
theorem arrive_of_not_ending (h : p.isEnding = false) :
    s.arrive sc l p now = ⟨sc.stepOf p, ⟨some p.id, s.tallyAt p⟩, l⟩ := by
  rw [arrive]
  split
  · next e he => exact absurd he (Scenario.stepOf_ne_ending h e)
  · rfl

/-! ## Beginning and choosing -/

theorem begin_eq (v : StartVariant) :
    begin sc v l now = fresh.arrive sc l (sc.story.startPassage v) now := rfl

/-- A choice is not followed, or it leads to the passage it names. -/
theorem choose_cases (s : Session) (sc : Scenario) (l : Ledger) (id : PassageId) (now : Instant) :
    (s.current = none ∧ s.choose sc l id now = .error .notStarted) ∨
    (s.current ≠ none ∧ ¬ IsIdBelow sc.story.passages.length id ∧
      s.choose sc l id now = .error (.story (.notFound id))) ∨
    (s.current ≠ none ∧ ∃ p, sc.story.get? id = some p ∧
      s.choose sc l id now = .ok (s.arrive sc l p now)) := by
  rw [choose]
  by_cases hcurrent : s.current = none
  · exact .inl ⟨hcurrent, if_pos hcurrent⟩
  rw [if_neg hcurrent]
  cases hget : sc.story.get id with
  | error e =>
    obtain ⟨rfl, hid⟩ := Story.get_eq_error_iff.1 hget
    exact .inr (.inl ⟨hcurrent, hid, rfl⟩)
  | ok p => exact .inr (.inr ⟨hcurrent, p, Story.get_eq_ok_iff.1 hget, rfl⟩)

end Session

/-! ## Live sessions -/

namespace Tally

/-- A tally that has counted nothing but paths. -/
def CountsPaths (t : Tally) : Prop :=
  ∀ tag, t.count tag ≠ 0 → ∃ o ∈ Outcome.markers, o.tag = tag ∧ o.category = .path

theorem countsPaths_empty : empty.CountsPaths := by
  intro tag h
  exact absurd rfl h

theorem count_record (t : Tally) (o : Outcome) (tag : String) :
    (t.record o).count tag = if o.isTallied ∧ tag = o.tag then t.count tag + 1 else t.count tag := by
  rw [record]
  by_cases htallied : o.isTallied = true
  · rw [if_pos htallied, count, NameMap.get?_alter]
    by_cases htag : tag = o.tag
    · subst htag
      simp [htallied, count]
    · simp [htag, count]
  · simp [htallied]

/-- Meeting a path or a menu keeps it so. -/
theorem CountsPaths.record {t : Tally} (h : t.CountsPaths) {o : Outcome} (ho : o ∈ Outcome.markers)
    (hcat : o.category ≠ .ending) : (t.record o).CountsPaths := by
  intro tag htag
  rw [count_record] at htag
  split at htag
  · -- The count that grew belongs to the outcome itself, which is no menu either.
    next hnew =>
    refine ⟨o, ho, hnew.2.symm, ?_⟩
    have hmenu : o.category ≠ .menu := by simpa [Outcome.isTallied] using hnew.1
    cases hpath : o.category <;> simp_all
  · exact h tag htag

end Tally

namespace Session

/--
A session that can be gone on with: it stands at a passage of the story that is no ending, and it
has met nothing but paths.
-/
def Live (sc : Scenario) (s : Session) : Prop :=
  (∃ id p, s.current = some id ∧ sc.story.get id = .ok p ∧ p.isEnding = false) ∧ s.tally.CountsPaths

theorem Live.current_ne_none {sc : Scenario} {s : Session} (h : s.Live sc) : s.current ≠ none := by
  obtain ⟨⟨id, p, hcurrent, -, -⟩, -⟩ := h
  rw [hcurrent]
  nofun

/-- A session that has met nothing but paths is live at a passage that is no ending. -/
theorem live_at {sc : Scenario} {s : Session} {id : PassageId} {p : Passage}
    (htally : s.tally.CountsPaths) (hget : sc.story.get? id = some p) (hp : p.isEnding = false) :
    Live sc ⟨some p.id, s.tallyAt p⟩ := by
  have hid : p.id = id := (Story.mem_of_get?_eq_some hget).2
  refine ⟨⟨id, p, by rw [hid], Story.get_eq_ok_iff.2 hget, hp⟩, ?_⟩
  show (s.tallyAt p).CountsPaths
  rw [tallyAt]
  split
  · -- The passage counts as a path or not at all.
    next o ho =>
    have hcat : o.category ≠ .ending := by
      intro hcat
      rw [Passage.isEnding_eq_true_iff.2 ⟨o, ho, hcat⟩] at hp
      cases hp
    exact htally.record (Outcome.mem_markers_of_ofTags ho) hcat
  · exact htally

end Session

end VisualNovel
