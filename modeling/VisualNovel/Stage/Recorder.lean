/-
  VisualNovel.Stage.Recorder

  A presenter that writes down what it is asked, for plays without a screen. It
  can be told to refuse transitions; a refused one is not written down.
-/

import VisualNovel.Stage.Directive

namespace VisualNovel

/-- A record of directives, with the transitions that are to be refused. -/
structure Recorder where
  /-- Why a transition is refused when it is asked for the given time, counted from 1. -/
  refusal : Transition → Nat → Option String := fun _ _ => none
  /-- Which directives are written down. -/
  keeps : Directive → Bool := fun _ => true
  /-- The transitions asked for so far, latest first. -/
  attempts : List Transition := []
  /-- The directives written down. -/
  directives : List Directive := []

namespace Recorder

/-! ## Kinds of recorders -/

/-- Refuses to enter one scene. -/
def refusing (scene : SceneId) : Recorder where
  refusal t _ := if t = .enter scene then some (scene.name ++ " failed to enter") else none

/-- How a transition is named in a refusal. -/
def callName : Transition → String
  | .prepare => "initialize"
  | .enter scene => "enter " ++ scene.name
  | .exit scene => "exit " ++ scene.name

/-- Refuses the given transitions, each at the given time. -/
def refusingAt (refused : List (Transition × Nat)) : Recorder where
  refusal t n := if (t, n) ∈ refused then some (callName t ++ " failed") else none

/-- Whether every presentation has to show a directive. -/
def isEssential : Directive → Bool
  | .display .stopAnimation => false
  | .display (.endingsProgress _ _) => false
  | .transition .prepare => false
  | _ => true

/-- Writes down the essential directives only. -/
def essential : Recorder where
  keeps := isEssential

/-! ## Recording -/

/-- Writes a directive down. -/
def record (r : Recorder) (d : Directive) : Recorder :=
  if r.keeps d then { r with directives := r.directives ++ [d] } else r

/-- Acknowledges a transition and writes it down, or refuses it. -/
def perform (r : Recorder) (t : Transition) : Except PresentationError Unit × Recorder :=
  let attempts := t :: r.attempts
  match r.refusal t (attempts.count t) with
  | some reason => (.error ⟨reason⟩, { r with attempts })
  | none => (.ok (), { r with attempts }.record (.transition t))

instance : Presenter Recorder where
  display r d := r.record (.display d)
  perform := perform

/-- Forgets the directives written down. -/
def clear (r : Recorder) : Recorder :=
  { r with directives := [] }

/-! ## Looking back -/

/-- The latest directive of a kind. -/
def last (r : Recorder) (kind : Directive → Option α) : Option α :=
  r.directives.reverse.findSome? kind

/-- The latest background. -/
def lastBackground (r : Recorder) : Option String :=
  r.last fun | .display (.background selector) => some selector | _ => none

/-- The latest prompt. -/
def lastPrompt (r : Recorder) : Option String :=
  r.last fun | .display (.prompt text) => some text | _ => none

/-- The latest choices. -/
def lastChoices (r : Recorder) : Option (List ChoiceItem) :=
  r.last fun | .display (.choices items) => some items | _ => none

/-- The scenes entered and left, in order. -/
def sceneEvents (r : Recorder) : List Transition :=
  r.directives.filterMap fun
    | .transition (.enter scene) => some (.enter scene)
    | .transition (.exit scene) => some (.exit scene)
    | _ => none

end Recorder

end VisualNovel
