/-
  VisualNovel.Proofs.Session.History

  A session and the history of what was asked of it. A history has every call
  with its answer, refusals included, so the passages traversed since the last
  begin can be read off it. `answer_cases` says all that a call can do. From it,
  by induction on the calls, the session is what the passages of its path make of
  it (`Session.Sums`), and the ledger is the first one with every ending that was
  ever traversed (`Ledger.Notes`).
-/

import VisualNovel.Proofs.Tally

namespace VisualNovel

open Time (Instant)

/-- An instant for calls that are made at a fixed time. -/
def Time.Instant.newYear : Instant :=
  ⟨⟨2025, 1, 1, by decide⟩, 0, 0, by decide⟩

/-! ## Calls and answers -/

namespace Session

/-- What can be asked of a session. -/
inductive Call
  | begin (v : StartVariant)
  | choose (id : PassageId)
  deriving DecidableEq, Repr

/-- The id of the passage that a call asks for. -/
def Call.target (story : Story) : Call → PassageId
  | .begin v => story.startOf v
  | .choose id => id

/-- The session that a call is made on: a begin forgets all that was before. -/
def Call.onto (s : Session) : Call → Session
  | .begin _ => fresh
  | .choose _ => s

/-- What a session answers to a call. -/
def answer (sc : Scenario) (s : Session) (l : Ledger) (call : Call) (now : Instant) :
    Except SessionError Arrival :=
  match call with
  | .begin v => .ok (begin sc v l now)
  | .choose id => s.choose sc l id now

variable {sc : Scenario} {s : Session} {l : Ledger} {call : Call} {now : Instant}

/-- A call is refused, which happens to choices only, or it arrives at the passage it asks for. -/
theorem answer_cases (sc : Scenario) (s : Session) (l : Ledger) (call : Call) (now : Instant) :
    (∃ id e, call = .choose id ∧ s.answer sc l call now = .error e) ∨
    ∃ p, sc.story.get? (call.target sc.story) = some p ∧
      s.answer sc l call now = .ok ((call.onto s).arrive sc l p now) := by
  cases call with
  | begin v => exact .inr ⟨sc.story.startPassage v, sc.story.get?_startOf v, rfl⟩
  | choose id =>
    rcases s.choose_cases sc l id now with ⟨-, he⟩ | ⟨-, -, he⟩ | ⟨-, p, hp, ha⟩
    · exact .inl ⟨id, _, rfl, he⟩
    · exact .inl ⟨id, _, rfl, he⟩
    · exact .inr ⟨p, hp, ha⟩

end Session

/-- A call with its answer. -/
structure Turn where
  call : Session.Call
  answer : Except SessionError Step
  deriving DecidableEq

namespace Turn

/-- The passage that was traversed, if the call was not refused. -/
def passage? (story : Story) (t : Turn) : Option Passage :=
  match t.answer with
  | .ok _ => story.get? (t.call.target story)
  | .error _ => none

/-- The passages that were traversed in some turns. -/
def traversed (story : Story) (turns : List Turn) : List Passage :=
  turns.filterMap (passage? story)

/-- Of some turns, latest first, those since the last begin. -/
def sinceBegin : List Turn → List Turn
  | [] => []
  | t :: ts =>
    match t.call with
    | .begin _ => [t]
    | .choose _ => t :: sinceBegin ts

end Turn

/-! ## Walks -/

/-- A session with its ledger and its history, latest turn first. -/
structure Walk where
  session : Session
  ledger : Ledger
  turns : List Turn

namespace Walk

/-- A walk of which nothing was asked yet. -/
def fresh (l : Ledger) : Walk :=
  ⟨.fresh, l, []⟩

/-- Makes a call; a refusal is noted in the history and changes nothing else. -/
def call (sc : Scenario) (w : Walk) (call : Session.Call) (now : Instant) : Walk :=
  match w.session.answer sc w.ledger call now with
  | .ok a => ⟨a.session, a.ledger, ⟨call, .ok a.step⟩ :: w.turns⟩
  | .error e => { w with turns := ⟨call, .error e⟩ :: w.turns }

/-- The walk after some calls, each at an instant of its own. -/
def after (sc : Scenario) (w : Walk) (calls : List (Session.Call × Instant)) : Walk :=
  calls.foldl (fun w c => w.call sc c.1 c.2) w

/-- The passages traversed since the last begin, latest first. -/
def path (story : Story) (w : Walk) : List Passage :=
  Turn.traversed story (Turn.sinceBegin w.turns)

/-- All passages traversed, latest first. -/
def visited (story : Story) (w : Walk) : List Passage :=
  Turn.traversed story w.turns

/-- What was traversed is in the story. -/
theorem exists_get?_of_mem_path {story : Story} {w : Walk} {p : Passage} (h : p ∈ w.path story) :
    ∃ id, story.get? id = some p := by
  obtain ⟨t, -, ht⟩ := List.mem_filterMap.1 h
  rw [Turn.passage?] at ht
  split at ht
  · exact ⟨_, ht⟩
  · cases ht

variable {sc : Scenario} {w : Walk} {call : Session.Call} {now : Instant}

theorem call_of_error {e : SessionError} (h : w.session.answer sc w.ledger call now = .error e) :
    w.call sc call now = { w with turns := ⟨call, .error e⟩ :: w.turns } := by
  rw [Walk.call, h]

theorem call_of_ok {a : Arrival} (h : w.session.answer sc w.ledger call now = .ok a) :
    w.call sc call now = ⟨a.session, a.ledger, ⟨call, .ok a.step⟩ :: w.turns⟩ := by
  rw [Walk.call, h]

/-- The path that a call goes on from; a begin starts a new one. -/
def pathOnto (story : Story) (w : Walk) : Session.Call → List Passage
  | .begin _ => []
  | .choose _ => w.path story

/-- A refusal leaves the path as it was, since only choices are refused. -/
theorem path_of_error {e : SessionError} {id : PassageId}
    (h : w.session.answer sc w.ledger (.choose id) now = .error e) :
    (w.call sc (.choose id) now).path sc.story = w.path sc.story := by
  rw [call_of_error h]
  rfl

theorem visited_of_error {e : SessionError} (h : w.session.answer sc w.ledger call now = .error e) :
    (w.call sc call now).visited sc.story = w.visited sc.story := by
  rw [call_of_error h]
  rfl

section Following

variable {a : Arrival} {p : Passage} (h : w.session.answer sc w.ledger call now = .ok a)
  (hp : sc.story.get? (call.target sc.story) = some p)

include h hp

theorem path_of_ok : (w.call sc call now).path sc.story = p :: w.pathOnto sc.story call := by
  rw [call_of_ok h, path, Turn.sinceBegin]
  cases call with
  | begin v => exact List.filterMap_cons_some hp
  | choose id => exact List.filterMap_cons_some hp

theorem visited_of_ok : (w.call sc call now).visited sc.story = p :: w.visited sc.story := by
  rw [call_of_ok h]
  exact List.filterMap_cons_some hp

end Following

end Walk

/-! ## The session as the sum of its path -/

namespace Session

/-- The position and the tally are those that the passages of a path leave, latest first. -/
structure Sums (s : Session) (ps : List Passage) : Prop where
  current : s.current = (ps.find? fun p => !p.isEnding).map (·.id)
  tally : s.tally = .ofOutcomes (ps.filterMap Passage.outcome)

theorem sums_fresh : fresh.Sums [] := ⟨rfl, rfl⟩

theorem tallyAt_eq {s : Session} {ps : List Passage} (h : s.Sums ps) (p : Passage) :
    s.tallyAt p = .ofOutcomes ((p :: ps).filterMap Passage.outcome) := by
  rw [tallyAt]
  split
  · next o ho => rw [List.filterMap_cons_some ho, Tally.ofOutcomes_cons, h.tally]
  · next ho => rw [List.filterMap_cons_none ho, h.tally]

/-- An arrival is one more passage of the path. -/
theorem Sums.arrive {s : Session} {ps : List Passage} (h : s.Sums ps) (sc : Scenario) (l : Ledger)
    (p : Passage) (now : Instant) : (s.arrive sc l p now).session.Sums (p :: ps) := by
  cases hend : p.isEnding with
  | true =>
    -- An ending leaves the position, as it is not looked at for it.
    obtain ⟨o, ho, hcat⟩ := Passage.isEnding_eq_true_iff.1 hend
    rw [arrive_of_ending ho hcat]
    refine ⟨?_, tallyAt_eq h p⟩
    rw [List.find?_cons_of_neg (by simp [hend])]
    exact h.current
  | false =>
    rw [arrive_of_not_ending hend]
    refine ⟨?_, tallyAt_eq h p⟩
    rw [List.find?_cons_of_pos (by simp [hend])]
    rfl

/-- A session has a position once its path has a passage that is no ending. -/
theorem Sums.current_eq_none_iff {s : Session} {ps : List Passage} (h : s.Sums ps) :
    s.current = none ↔ ∀ p ∈ ps, p.isEnding = true := by
  rw [h.current, Option.map_eq_none_iff, List.find?_eq_none]
  simp

end Session

/-- The session of a walk is what its path makes of it, after any calls. -/
theorem Walk.sums_call {sc : Scenario} {w : Walk} (h : w.session.Sums (w.path sc.story))
    (call : Session.Call) (now : Instant) :
    (w.call sc call now).session.Sums ((w.call sc call now).path sc.story) := by
  rcases w.session.answer_cases sc w.ledger call now with ⟨id, e, rfl, he⟩ | ⟨p, hp, ha⟩
  · rw [path_of_error he, call_of_error he]
    exact h
  · have honto : (call.onto w.session).Sums (w.pathOnto sc.story call) := by
      cases call with
      | begin v => exact Session.sums_fresh
      | choose id => exact h
    rw [path_of_ok ha hp, call_of_ok ha]
    exact honto.arrive sc w.ledger p now

/-! ## The ledger as the sum of all endings -/

namespace Ledger

theorem isReached_markReached (l : Ledger) (name other : String) (outcome : Option String)
    (now : Instant) :
    (l.markReached name outcome now).isReached other = true ↔ other = name ∨ l.isReached other = true := by
  rw [isReached, get?_markReached]
  by_cases h : other = name
  · simp [h, EndingRecord.mark]
  · simp [h, isReached]

/-- A later ledger is an earlier one with the endings among some passages noted. -/
structure Notes (before after : Ledger) (ps : List Passage) : Prop where
  reached : ∀ name, after.isReached name = true ↔
    before.isReached name = true ∨ ∃ p ∈ ps, p.isEnding = true ∧ p.name = name
  others : ∀ name, (∀ p ∈ ps, p.isEnding = true → p.name ≠ name) → after.get? name = before.get? name

theorem notes_refl (l : Ledger) : l.Notes l [] where
  reached name := by simp
  others name _ := rfl

/-- An arrival notes the ending, if it is one. -/
theorem Notes.arrive {before after : Ledger} {ps : List Passage} (h : before.Notes after ps)
    (sc : Scenario) (s : Session) (p : Passage) (now : Instant) :
    before.Notes (s.arrive sc after p now).ledger (p :: ps) := by
  cases hend : p.isEnding with
  | false =>
    rw [Session.arrive_of_not_ending hend]
    constructor
    · intro name
      simp [h.reached name, hend]
    · intro name hname
      exact h.others name fun q hq => hname q (List.mem_cons_of_mem p hq)
  | true =>
    obtain ⟨o, ho, hcat⟩ := Passage.isEnding_eq_true_iff.1 hend
    rw [Session.arrive_of_ending ho hcat]
    constructor
    · intro name
      rw [isReached_markReached, h.reached name]
      simp only [List.exists_mem_cons_iff, hend, true_and, eq_comm (a := name)]
      exact or_left_comm
    · intro name hname
      have hne : name ≠ p.name := Ne.symm (hname p List.mem_cons_self hend)
      rw [get?_markReached, if_neg hne]
      exact h.others name fun q hq => hname q (List.mem_cons_of_mem p hq)

end Ledger

theorem Walk.notes_call {sc : Scenario} {l : Ledger} {w : Walk}
    (h : l.Notes w.ledger (w.visited sc.story)) (call : Session.Call) (now : Instant) :
    l.Notes (w.call sc call now).ledger ((w.call sc call now).visited sc.story) := by
  rcases w.session.answer_cases sc w.ledger call now with ⟨id, e, -, he⟩ | ⟨p, hp, ha⟩
  · rw [visited_of_error he, call_of_error he]
    exact h
  · rw [visited_of_ok ha hp, call_of_ok ha]
    exact h.arrive sc _ p now

end VisualNovel
