/-
  VisualNovel.Scene.Basic

  Scenes with the state they own, the scenes one can ask for, and the answers of
  the controller that moves between them.
-/

import VisualNovel.Ledger.Persistence
import VisualNovel.Session

namespace VisualNovel

/-- An active scene. -/
inductive Scene
  | splash
  | prompts (session : Session)
  | gameOver (ending : Ending)
  deriving DecidableEq

/-- Which scene it is. -/
def Scene.id : Scene → SceneId
  | .splash => .splash
  | .prompts _ => .prompts
  | .gameOver _ => .gameOver

/-- A scene to go to. -/
inductive SceneTarget
  | splash
  | prompts (variant : StartVariant)
  | gameOver (ending : Ending)
  deriving DecidableEq, Repr

/-- Which scene is asked for. -/
def SceneTarget.id : SceneTarget → SceneId
  | .splash => .splash
  | .prompts _ => .prompts
  | .gameOver _ => .gameOver

/-- What became of a choice. -/
inductive Dispatch
  /-- The active scene took it and stayed. -/
  | handled
  /-- It led to another scene. -/
  | transitioned
  /-- No scene accepted it. -/
  | ignored
  deriving DecidableEq, Repr

/-- Why the play cannot go on as asked. -/
inductive PlayError
  | session (e : SessionError)
  | presentation (e : PresentationError)
  | ledger (e : LedgerError)
  deriving DecidableEq, Repr

/-- The wording of an error. -/
def PlayError.message : PlayError → String
  | .session e => e.message
  | .presentation e => "presentation error: " ++ e.reason
  | .ledger e => "ledger error: " ++ e.message

end VisualNovel
