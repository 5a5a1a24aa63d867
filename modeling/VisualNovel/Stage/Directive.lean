/-
  VisualNovel.Stage.Directive

  What the play asks of the presentation, and what the reader answers. A
  `Display` is shown without reply. A `Transition` is acknowledged or refused, and
  the play waits for that. A `Presenter` is any type that can take both.
-/

import VisualNovel.Story.Passage

namespace VisualNovel

/-- The scenes of a play. -/
inductive SceneId
  | splash
  | prompts
  | gameOver
  deriving DecidableEq, Repr

def SceneId.name : SceneId → String
  | .splash => "splash"
  | .prompts => "prompts"
  | .gameOver => "game-over"

/-- A choice offered to the reader. -/
structure ChoiceItem where
  label : String
  targetId : PassageId
  deriving DecidableEq, Repr

/-- The choice that a link offers. -/
def Link.choice (l : Link) : ChoiceItem :=
  ⟨l.label, l.targetId⟩

/-- What the reader decides. -/
inductive UserChoice
  /-- Go to a passage. -/
  | passage (targetId : PassageId)
  /-- Start the story. -/
  | start (variant : StartVariant)
  /-- Play again after an ending. -/
  | restart
  deriving DecidableEq, Repr

/-- Something to show. -/
inductive Display
  | background (selector : String)
  | animation (selector : String)
  | stopAnimation
  | secondaryEffect (isOn : Bool)
  | prompt (text : String)
  | choices (items : List ChoiceItem)
  | endingText (text : String)
  | endingsProgress (reached total : Nat)
  deriving DecidableEq, Repr

/-- A change that the presentation has to acknowledge. -/
inductive Transition
  /-- Get ready for the first scene. -/
  | prepare
  | enter (scene : SceneId)
  | exit (scene : SceneId)
  deriving DecidableEq, Repr

/-- Anything asked of the presentation. -/
inductive Directive
  | display (d : Display)
  | transition (t : Transition)
  deriving DecidableEq, Repr

/-- Why a transition was refused. -/
structure PresentationError where
  reason : String
  deriving DecidableEq, Repr

/-- A presentation of the play. -/
class Presenter (σ : Type) where
  display : σ → Display → σ
  perform : σ → Transition → Except PresentationError Unit × σ

end VisualNovel
