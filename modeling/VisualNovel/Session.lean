/-
  VisualNovel.Session

  One walk through a story. Arriving at a passage counts its outcome and gives
  the step to present: a frame, nothing for a menu, or an ending, which is noted
  in the ledger and leaves the position as it was. A session does not present
  anything itself.
-/

import VisualNovel.Assets
import VisualNovel.Config
import VisualNovel.Ledger.Basic
import VisualNovel.Stage.Directive
import VisualNovel.Tally

namespace VisualNovel

open Time (Instant)

/-! ## Starts -/

namespace Story

theorem startOf_isId (s : Story) (v : StartVariant) : IsIdBelow s.passages.length (s.startOf v) := by
  cases v
  · exact s.start_isId
  · exact s.altStart_isId

/-- The passage that a start names. -/
def startPassage (s : Story) (v : StartVariant) : Passage :=
  s.passages.get ⟨(s.startOf v).toNat - 1, by have := s.startOf_isId v; omega⟩

theorem get?_startOf (s : Story) (v : StartVariant) :
    s.get? (s.startOf v) = some (s.startPassage v) := by
  have h := s.startOf_isId v
  have hne : s.startOf v ≠ 0 := fun e => by simp [IsIdBelow, e] at h
  have hlt : (s.startOf v).toNat - 1 < s.passages.length := by omega
  simp only [get?, hne, if_false, startPassage, List.getElem?_eq_getElem hlt, List.get_eq_getElem]

end Story

/-! ## Steps -/

/-- A story with its assets and settings. -/
structure Scenario where
  story : Story
  assets : AssetManifest
  config : Config

/-- All that is shown of a passage. -/
structure Frame where
  passageId : PassageId
  passageName : String
  outcomeTag : Option String
  background : String
  animation : AnimationCue
  prompt : String
  choices : List ChoiceItem
  deriving DecidableEq, Repr

/-- An ending that was reached. -/
structure Ending where
  outcomeTag : String
  text : String
  passageName : String
  deriving DecidableEq, Repr

/-- What is to be presented after arriving at a passage. -/
inductive Step
  | frame (f : Frame)
  | menu
  | ending (e : Ending)
  deriving DecidableEq, Repr

namespace Scenario

/-- The prompt of a passage. -/
def promptOf (sc : Scenario) (p : Passage) : String :=
  p.prompt sc.config.linkDelimiter

/-- The frame of a passage; its background goes by its name, then by its outcome. -/
def frame (sc : Scenario) (p : Passage) : Frame :=
  let outcomeTag := p.outcome.map (·.tag)
  { passageId := p.id
    passageName := p.name
    outcomeTag
    background := sc.assets.background (p.name :: outcomeTag.toList) sc.config.defaultBackground
    animation := sc.assets.animation p.name sc.config.defaultAnimation
    prompt := sc.promptOf p
    choices := p.links.map Link.choice }

/-- The ending that a passage is. -/
def ending (sc : Scenario) (p : Passage) (o : Outcome) : Ending :=
  ⟨o.tag, sc.promptOf p, p.name⟩

/-- The background of an ending: by the passage's name, then by the outcome. -/
def endingBackground (sc : Scenario) (e : Ending) : String :=
  sc.assets.background [e.passageName, e.outcomeTag] sc.config.defaultBackground

/-- The step of a passage. -/
def stepOf (sc : Scenario) (p : Passage) : Step :=
  match p.outcome with
  | some o =>
    match o.category with
    | .ending => .ending (sc.ending p o)
    | .menu => .menu
    | .path => .frame (sc.frame p)
  | none => .frame (sc.frame p)

end Scenario

/-! ## Sessions -/

/-- Why a choice is not followed. -/
inductive SessionError
  | notStarted
  | story (e : StoryError)
  deriving DecidableEq, Repr

/-- The wording of an error. -/
def SessionError.message : SessionError → String
  | .notStarted => "session has not begun"
  | .story e => e.message

/-- One walk through a story: the passage last shown, and the outcomes met. -/
structure Session where
  current : Option PassageId
  tally : Tally
  deriving DecidableEq

/-- What an arrival leads to. -/
structure Arrival where
  step : Step
  session : Session
  ledger : Ledger

namespace Session

/-- The session that has not begun. -/
def fresh : Session :=
  ⟨none, .empty⟩

instance : Inhabited Session := ⟨fresh⟩

/-- Arrives at a passage. -/
def arrive (sc : Scenario) (s : Session) (l : Ledger) (p : Passage) (now : Instant) : Arrival :=
  let tally := match p.outcome with
    | some o => s.tally.record o
    | none => s.tally
  match sc.stepOf p with
  -- An ending is no place to choose from, so the position stays.
  | .ending e => ⟨.ending e, ⟨s.current, tally⟩, l.markReached e.passageName (some e.outcomeTag) now⟩
  | step => ⟨step, ⟨some p.id, tally⟩, l⟩

/-- Begins anew at a start. -/
def begin (sc : Scenario) (v : StartVariant) (l : Ledger) (now : Instant) : Arrival :=
  fresh.arrive sc l (sc.story.startPassage v) now

/-- Follows a choice. -/
def choose (sc : Scenario) (s : Session) (l : Ledger) (id : PassageId) (now : Instant) :
    Except SessionError Arrival :=
  if s.current = none then .error .notStarted
  else
    match sc.story.get id with
    | .error e => .error (.story e)
    | .ok p => .ok (s.arrive sc l p now)

end Session

end VisualNovel
