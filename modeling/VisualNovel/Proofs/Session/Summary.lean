/-
  VisualNovel.Proofs.Session.Summary

  What a session is in terms of its history: which calls it refuses, its tally
  and position, and the endings that the ledger has.
-/

import VisualNovel.Proofs.Scene.Operations
import VisualNovel.Proofs.Session.History

namespace VisualNovel

open Time (Instant)

/-- Whether a passage is counted under a tag: its outcome has the tag and is no menu. -/
def Passage.countsAs (p : Passage) (tag : String) : Bool :=
  p.outcome.any fun o => o.tag == tag && o.category != .menu

namespace Tally

/-- The tally has exactly the passages of a path, and its total is the sum over all tags. -/
structure CountsPath (t : Tally) (ps : List Passage) : Prop where
  count : ∀ tag, (t.count tag).toNat = ps.countP fun p => p.countsAs tag
  total : t.total.toNat = ∑ᶠ tag, (t.count tag).toNat

theorem count_countedTags_eq (ps : List Passage) (tag : String) :
    (countedTags (ps.filterMap Passage.outcome)).count tag = ps.countP fun p => p.countsAs tag := by
  rw [countedTags, List.count_eq_countP, List.countP_map, List.countP_filter, List.countP_filterMap]
  apply List.countP_congr
  intro p _
  rw [Passage.countsAs]
  cases p.outcome with
  | none => simp
  | some o => simp [Outcome.isTallied]

end Tally

theorem Session.Sums.countsPath {s : Session} {ps : List Passage} (h : s.Sums ps)
    (hlt : ps.length < UInt32.size) : s.tally.CountsPath ps := by
  have hos : (Tally.countedTags (ps.filterMap Passage.outcome)).length < UInt32.size :=
    Nat.lt_of_le_of_lt ((Tally.length_countedTags_le _).trans (List.length_filterMap_le ..)) hlt
  rw [h.tally]
  constructor
  · intro tag
    rw [Tally.toNat_count_ofOutcomes hos, Tally.count_countedTags_eq]
  · exact Tally.toNat_total_ofOutcomes hos

namespace Walk

/-- What a walk that began with a ledger tells of its history. -/
structure Summarizes (sc : Scenario) (l : Ledger) (w : Walk) : Prop where
  /-- A begin is never refused: the start is a passage of the story, and it is arrived at. -/
  begins : ∀ v now, ∃ p, sc.story.get (sc.story.startOf v) = .ok p ∧
    w.session.answer sc w.ledger (.begin v) now = .ok (Session.fresh.arrive sc w.ledger p now)
  /-- There is nothing to choose from until a passage is traversed that is no ending. -/
  notStarted : ∀ id now, w.session.answer sc w.ledger (.choose id) now = .error .notStarted ↔
    ∀ p ∈ w.path sc.story, p.isEnding = true
  /-- After that only a number that the story does not have is refused. -/
  notFound : (∃ p ∈ w.path sc.story, p.isEnding = false) → ∀ id now,
    (w.session.answer sc w.ledger (.choose id) now = .error (.story (.notFound id)) ↔
      ¬ IsIdBelow sc.story.passages.length id) ∧
    (IsIdBelow sc.story.passages.length id →
      ∃ a, w.session.answer sc w.ledger (.choose id) now = .ok a)
  /-- A refusal changes neither the session nor the ledger. -/
  refused : ∀ call now e, w.session.answer sc w.ledger call now = .error e →
    (w.call sc call now).session = w.session ∧ (w.call sc call now).ledger = w.ledger
  /-- Fewer passages than a word can count are all counted. -/
  tally : (w.path sc.story).length < UInt32.size → w.session.tally.CountsPath (w.path sc.story)
  /-- The position is at the latest passage that is no ending. -/
  current : w.session.current = ((w.path sc.story).find? fun p => !p.isEnding).map (·.id)
  /-- The ledger has the endings it had and those that were traversed since, and nothing else is new. -/
  ledger : l.Notes w.ledger (w.visited sc.story)

theorem Summarizes.of_sums {sc : Scenario} {l : Ledger} {w : Walk}
    (hsums : w.session.Sums (w.path sc.story)) (hnotes : l.Notes w.ledger (w.visited sc.story)) :
    w.Summarizes sc l where
  begins v now :=
    ⟨sc.story.startPassage v, Story.get_eq_ok_iff.2 (sc.story.get?_startOf v), rfl⟩
  notStarted id now := by
    rw [← hsums.current_eq_none_iff]
    rcases w.session.choose_cases sc w.ledger id now with ⟨hnone, he⟩ | ⟨hsome, -, he⟩ | ⟨hsome, p, -, ha⟩
    · exact ⟨fun _ => hnone, fun _ => he⟩
    · simp [Session.answer, he, hsome]
    · simp [Session.answer, ha, hsome]
  notFound := by
    rintro ⟨q, hq, hqend⟩ id now
    have hstarted : w.session.current ≠ none := by
      intro hnone
      have := hsums.current_eq_none_iff.1 hnone q hq
      rw [hqend] at this
      cases this
    rcases w.session.choose_cases sc w.ledger id now with ⟨hnone, -⟩ | ⟨-, hid, he⟩ | ⟨-, p, hp, ha⟩
    · exact absurd hnone hstarted
    · exact ⟨⟨fun _ => hid, fun _ => he⟩, fun h => absurd h hid⟩
    · -- What is found has a number of the story.
      have hid : IsIdBelow sc.story.passages.length id := by
        by_contra hid
        rw [Story.get?_eq_none_iff.2 hid] at hp
        cases hp
      refine ⟨⟨fun he => ?_, fun h => absurd hid h⟩, fun _ => ⟨_, ha⟩⟩
      rw [Session.answer, ha] at he
      cases he
  refused call now e he := by
    rw [call_of_error he]
    exact ⟨rfl, rfl⟩
  tally hlt := hsums.countsPath hlt
  current := hsums.current
  ledger := hnotes

/-- **A session is the summary of its history,** after any calls and with any ledger to begin with. -/
theorem summarizes_after (sc : Scenario) (l : Ledger) (calls : List (Session.Call × Instant)) :
    ((fresh l).after sc calls).Summarizes sc l := by
  have hinv : ∀ w : Walk, w.session.Sums (w.path sc.story) → l.Notes w.ledger (w.visited sc.story) →
      (w.after sc calls).Summarizes sc l := by
    induction calls with
    | nil => exact fun w hsums hnotes => .of_sums hsums hnotes
    | cons c calls ih =>
      intro w hsums hnotes
      exact ih (w.call sc c.1 c.2) (sums_call hsums c.1 c.2) (notes_call hnotes c.1 c.2)
  exact hinv (fresh l) Session.sums_fresh l.notes_refl

/--
A choice before the beginning, a walk with a number too high on the way, an ending, one more choice,
and then the start that is an ending itself.
-/
def briefCalls : List (Session.Call × Instant) :=
  [.choose 1, .begin .default, .choose 7, .choose 2, .choose 1, .begin .alt, .choose 1].map
    fun c => (c, .newYear)

theorem summarizes_after_briefCalls :
    let w := (fresh (.ofStory .brief)).after .brief briefCalls
    w.Summarizes .brief (.ofStory .brief) ∧ (w.path Story.brief).length < UInt32.size ∧
      (∀ tag, (w.session.tally.count tag).toNat = (w.path Story.brief).countP fun p => p.countsAs tag) ∧
      w.session.current = none := by
  have h := summarizes_after .brief (.ofStory .brief) briefCalls
  have hlt : (((fresh (.ofStory .brief)).after .brief briefCalls).path Story.brief).length <
      UInt32.size := by decide +kernel
  exact ⟨h, hlt, (h.tally hlt).count, by decide +kernel⟩

end Walk

end VisualNovel
