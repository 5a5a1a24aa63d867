/-
  VisualNovel.Proofs.Session.SharedLedger

  Sessions that share a ledger, and the outcomes that it has on record. A ledger
  keeps one record for each name. The outcome in it is that of the last passage
  that ends the story under the name (`Seeded.outcome_eq`), whatever was saved and
  whichever passage is arrived at. So the record of an ending has the outcome that
  led to it as long as the last passage of the name has the same outcome
  (`outcome_eq_iff`).
-/

import VisualNovel.Proofs.Ledger.Endings

namespace VisualNovel

open EndingRecord (unreached)
open Time (Instant)

/-! ## Endings by name -/

namespace Story

/-- The last passage that ends the story under a name. -/
def lastEnding? (s : Story) (name : String) : Option Passage :=
  (s.endings.filter fun p => p.name = name).getLast?

/-- The tag of the outcome that the story has for an ending. -/
def endingTag? (s : Story) (name : String) : Option String :=
  (s.lastEnding? name).bind fun p => p.outcome.map (·.tag)

/-- Passages that end the story under one name have one outcome. -/
def OutcomeByName (s : Story) : Prop :=
  ∀ p ∈ s.endings, ∀ q ∈ s.endings, p.name = q.name → p.outcome = q.outcome

theorem mem_endings_of_lastEnding? {s : Story} {name : String} {p : Passage}
    (h : s.lastEnding? name = some p) : p ∈ s.endings ∧ p.name = name := by
  have hmem := List.mem_filter.1 (List.mem_of_getLast? h)
  exact ⟨hmem.1, of_decide_eq_true hmem.2⟩

theorem exists_lastEnding? {s : Story} {p : Passage} (h : p ∈ s.endings) :
    ∃ q, s.lastEnding? p.name = some q := by
  apply Option.ne_none_iff_exists'.1
  rw [lastEnding?, Ne, List.getLast?_eq_none_iff]
  exact List.ne_nil_of_mem (List.mem_filter.2 ⟨h, decide_eq_true rfl⟩)

theorem outcome_of_mem_endings {s : Story} {p : Passage} (h : p ∈ s.endings) :
    ∃ o, p.outcome = some o ∧ o.category = .ending :=
  Passage.isEnding_eq_true_iff.1 (List.mem_filter.1 h).2

theorem OutcomeByName.endingTag?_eq {s : Story} (hs : s.OutcomeByName) {p : Passage} (h : p ∈ s.endings) :
    s.endingTag? p.name = p.outcome.map (·.tag) := by
  obtain ⟨q, hq⟩ := exists_lastEnding? h
  obtain ⟨hmem, hname⟩ := mem_endings_of_lastEnding? hq
  rw [endingTag?, hq, Option.bind_some, hs q hmem p h hname]

end Story

namespace Ledger

variable {story : Story} {l : Ledger}

/-- The seed has the outcome of the last passage of each name. -/
theorem get?_seed_eq (story : Story) (name : String) :
    (seed story).get? name = (story.lastEnding? name).map fun p => unreached (p.outcome.map (·.tag)) := by
  rw [seed, NameMap.get?_ofList, NameMap.find?_reverse, List.filter_map, List.getLast?_map, Option.map_map]
  rfl

/-- The record of an ending has the outcome that the story has for it, whatever was saved. -/
theorem Seeded.outcome_eq (h : Seeded story l) {p : Passage} (hp : p ∈ story.endings) :
    ∃ r, l.get? p.name = some r ∧ r.outcome = story.endingTag? p.name := by
  obtain ⟨q, hq⟩ := Story.exists_lastEnding? hp
  obtain ⟨o, ho, -⟩ := Story.outcome_of_mem_endings (Story.mem_endings_of_lastEnding? hq).1
  have hseed : (seed story).get? p.name = some (unreached (some o.tag)) := by
    rw [get?_seed_eq, hq, Option.map_some, ho, Option.map_some]
  obtain ⟨r, hr, hmerge⟩ := h.merge_eq p.name _ hseed
  rw [EndingRecord.unreached_merge_eq_iff, Option.some_or] at hmerge
  refine ⟨r, hr, ?_⟩
  rw [← hmerge, Story.endingTag?, hq, Option.bind_some, ho, Option.map_some]

end Ledger

/-! ## Sessions -/

namespace Session

/-- An answer leaves the ledger alone, or it is an ending, which is noted there. -/
theorem answer_ok_cases {sc : Scenario} {s : Session} {l : Ledger} {call : Call} {now : Instant}
    {a : Arrival} (ha : s.answer sc l call now = .ok a) :
    ((∀ e, a.step ≠ .ending e) ∧ a.ledger = l) ∨
    ∃ p ∈ sc.story.endings, ∃ o, p.outcome = some o ∧ a.step = .ending (sc.ending p o) ∧
      a.ledger = l.markReached p.name (some o.tag) now := by
  rcases answer_cases sc s l call now with ⟨id, error, -, hrefused⟩ | ⟨p, hp, harrive⟩
  · cases hrefused.symm.trans ha
  · cases harrive.symm.trans ha
    cases hend : p.isEnding with
    | false =>
      rw [arrive_of_not_ending hend]
      exact .inl ⟨Scenario.stepOf_ne_ending hend, rfl⟩
    | true =>
      obtain ⟨o, ho, hcat⟩ := Passage.isEnding_eq_true_iff.1 hend
      rw [arrive_of_ending ho hcat]
      exact .inr ⟨p, List.mem_filter.2 ⟨Story.mem_passages_of_get? hp, hend⟩, o, ho, rfl, rfl⟩

end Session

/-- Sessions by their numbers, and the ledger that they share. -/
structure SharedLedger where
  sessions : Nat → Session
  ledger : Ledger

namespace SharedLedger

/-- A call that is made on one of the sessions at some instant. -/
structure Request where
  session : Nat
  call : Session.Call
  now : Instant

/-- No session has begun. -/
def opening (l : Ledger) : SharedLedger :=
  ⟨fun _ => .fresh, l⟩

/-- What the session answers. -/
def answer (sc : Nat → Scenario) (g : SharedLedger) (r : Request) : Except SessionError Arrival :=
  (g.sessions r.session).answer (sc r.session) g.ledger r.call r.now

/-- A call changes the session that it is made on, and the ledger; a refusal changes nothing. -/
def call (sc : Nat → Scenario) (g : SharedLedger) (r : Request) : SharedLedger :=
  match g.answer sc r with
  | .ok a => ⟨Function.update g.sessions r.session a.session, a.ledger⟩
  | .error _ => g

/-- The sessions and the ledger after some calls. -/
def after (sc : Nat → Scenario) (g : SharedLedger) (requests : List Request) : SharedLedger :=
  requests.foldl (call sc) g

variable {story : Story} {sc : Nat → Scenario} {g : SharedLedger}

theorem after_snoc (sc : Nat → Scenario) (g : SharedLedger) (earlier : List Request) (r : Request) :
    g.after sc (earlier ++ [r]) = (g.after sc earlier).call sc r :=
  List.foldl_append

/-- Whatever story a session is on, the ledger keeps the one that it has taken in. -/
theorem seeded_call (sc : Nat → Scenario) (h : g.ledger.Seeded story) (r : Request) :
    (g.call sc r).ledger.Seeded story := by
  rw [call]
  split
  · next a ha =>
    show a.ledger.Seeded story
    rcases Session.answer_ok_cases ha with ⟨-, hledger⟩ | ⟨p, -, o, -, -, hledger⟩
    · rw [hledger]
      exact h
    · rw [hledger]
      exact h.markReached p.name (some o.tag) r.now
  · exact h

theorem seeded_after (sc : Nat → Scenario) (h : g.ledger.Seeded story)
    (requests : List Request) : (g.after sc requests).ledger.Seeded story := by
  induction requests generalizing g with
  | nil => exact h
  | cons r requests ih => exact ih (seeded_call sc h r)

/-- A call that is answered with an ending leaves a record with the outcome of the story. -/
theorem exists_record_of_ending (hsc : ∀ n, (sc n).story = story) (h : g.ledger.Seeded story) {r : Request}
    {a : Arrival} {e : Ending} (ha : g.answer sc r = .ok a) (he : a.step = .ending e) :
    ∃ p ∈ story.endings, p.name = e.passageName ∧ p.outcome.map (·.tag) = some e.outcomeTag ∧
      ∃ record, (g.call sc r).ledger.get? e.passageName = some record ∧ record.reached = true ∧
        record.outcome = story.endingTag? e.passageName := by
  rcases Session.answer_ok_cases ha with ⟨hnone, -⟩ | ⟨p, hmem, o, ho, hstep, hledger⟩
  · exact absurd he (hnone e)
  cases hstep.symm.trans he
  rw [hsc] at hmem
  -- The ledger after the call has taken in the story, so the seed decides on the outcome.
  obtain ⟨record, hrecord, houtcome⟩ := (seeded_call sc h r).outcome_eq hmem
  have hcall : (g.call sc r).ledger = g.ledger.markReached p.name (some o.tag) r.now := by
    rw [call, ha]
    exact hledger
  have hreached : record.reached = true := by
    rw [hcall, Ledger.get?_markReached, if_pos rfl] at hrecord
    rw [← Option.some.inj hrecord]
    rfl
  exact ⟨p, hmem, rfl, by rw [ho]; rfl, record, hrecord, hreached, houtcome⟩

/--
**Outcomes on record.** A ledger is hydrated for a story and shared by any number of sessions on it.
When one of them arrives at an ending, the ending is on record as reached. The record has the outcome
of that ending exactly if it is the one that the story has for the name, as it always is when endings
of one name have one outcome.
-/
theorem outcome_eq_iff {τ : Type} [LedgerStore τ] {store : τ} {key : String} {l : Ledger}
    (h : Ledger.hydrate story store key = .ok l) (hsc : ∀ n, (sc n).story = story)
    (earlier : List Request) {r : Request} {a : Arrival} {e : Ending}
    (ha : ((opening l).after sc earlier).answer sc r = .ok a) (he : a.step = .ending e) :
    ∃ record, ((opening l).after sc (earlier ++ [r])).ledger.get? e.passageName = some record ∧
      record.reached = true ∧
      (record.outcome = some e.outcomeTag ↔ story.endingTag? e.passageName = some e.outcomeTag) ∧
      (story.OutcomeByName → record.outcome = some e.outcomeTag) := by
  have hseeded := seeded_after sc (g := opening l) (Ledger.seeded_of_hydrate h) earlier
  obtain ⟨p, hmem, hname, htag, record, hrecord, hreached, houtcome⟩ :=
    exists_record_of_ending hsc hseeded ha he
  rw [after_snoc]
  refine ⟨record, hrecord, hreached, by rw [houtcome], ?_⟩
  intro hs
  rw [houtcome, ← hname, hs.endingTag?_eq hmem, htag]

/-- Each session by itself plays the story of twins. -/
def twins (_ : Nat) : Scenario where
  story := .twins
  assets := ⟨.empty, .empty⟩
  config := {}

/-- Two sessions arrive at the two endings of one name; the record has the outcome of the latter. -/
theorem outcome_eq_iff_twins :
    let store : MemoryStore := .empty
    let l := Ledger.ofStory .twins
    let first : Request := ⟨0, .begin .default, .newYear⟩
    let second : Request := ⟨1, .begin .alt, .newYear⟩
    Ledger.hydrate .twins store "endings" = .ok l ∧ (∀ n, (twins n).story = .twins) ∧
      ∃ a e, ((opening l).after twins [first]).answer twins second = .ok a ∧ a.step = .ending e ∧
        e.outcomeTag = "Good-End" ∧
        ∃ record, ((opening l).after twins [first, second]).ledger.get? e.passageName = some record ∧
          record.reached = true ∧ record.outcome = some e.outcomeTag := by
  intro store l first second
  have hhydrate : Ledger.hydrate .twins store "endings" = .ok l := rfl
  have hsc : ∀ n, (twins n).story = .twins := fun _ => rfl
  obtain ⟨record, hrecord, hreached, hiff, -⟩ := outcome_eq_iff hhydrate hsc [first] (r := second) rfl rfl
  exact ⟨hhydrate, hsc, _, _, rfl, rfl, rfl, record, hrecord, hreached,
    hiff.2 (by decide +kernel)⟩

/-- An ending leads to a record with the outcome of another passage of the same name. -/
theorem outcome_of_other :
    let store : MemoryStore := .empty
    let l := Ledger.ofStory .twins
    let r : Request := ⟨0, .begin .default, .newYear⟩
    Ledger.hydrate .twins store "endings" = .ok l ∧ ∃ a e record,
      (opening l).answer twins r = .ok a ∧ a.step = .ending e ∧
      ((opening l).after twins [r]).ledger.get? e.passageName = some record ∧
      e.outcomeTag = "BAD-END" ∧ record.outcome = some "Good-End" := by
  intro store l r
  have hrecord : ((opening l).after twins [r]).ledger.get? "Cellar" =
      some ⟨true, some "Good-End", some .newYear⟩ := by decide +kernel
  exact ⟨rfl, _, _, _, rfl, rfl, hrecord, rfl, rfl⟩

end SharedLedger

end VisualNovel
