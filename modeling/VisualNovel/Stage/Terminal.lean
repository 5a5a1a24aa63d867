/-
  VisualNovel.Stage.Terminal

  A presenter that prints lines of text, and the reading of typed lines. The
  terminal keeps the scene and the choices that it shows, and understands a line
  by them: a start on the start screen, the number of a choice in the story, a
  restart after an ending, and quitting anywhere. `perform_fst` says that it
  refuses no transition.
-/

import VisualNovel.Assets
import VisualNovel.EventLoop
import VisualNovel.Text.Lines
import VisualNovel.Text.Style

namespace VisualNovel

open Text (Palette)

/-- What is on screen, and all that was printed. -/
structure Terminal where
  assets : AssetManifest
  palette : Palette
  scene : Option SceneId := none
  choices : List ChoiceItem := []
  /-- The lines printed so far, in order. -/
  printed : List String := []
  deriving DecidableEq

namespace Terminal

/-- Prints some lines. -/
def print (t : Terminal) (lines : List String) : Terminal :=
  { t with printed := t.printed ++ lines }

/-! ## Showing -/

/-- An indented line. -/
def indented (s : String) : String :=
  "  " ++ s

/-- The lines of a text without the blanks at their ends. -/
def textLines (s : String) : List String :=
  (Text.lines s.toList).map fun l => .ofList (Text.trimEnd l)

/-- A background by its name, with its location if there is one. -/
def backgroundText (assets : AssetManifest) (selector : String) : String :=
  match assets.backgrounds.get? selector with
  | some location => "[" ++ selector ++ ": " ++ location ++ "]"
  | none => "[" ++ selector ++ "]"

/-- The numbered lines of some choices, from number `n` on. -/
def choiceLines (p : Palette) (n : Nat) : List ChoiceItem → List String
  | [] => []
  | c :: cs =>
    indented (p.paint .bold (toString n ++ ".") ++ " " ++ c.label) :: choiceLines p (n + 1) cs

/-- How many endings are reached out of how many. -/
def ratio (reached total : Nat) : String :=
  toString reached ++ "/" ++ toString total

/-- The lines that something to show is printed as. -/
def displayLines (assets : AssetManifest) (p : Palette) : Display → List String
  | .background selector => [indented (p.paint .dim (backgroundText assets selector))]
  | .animation selector => [indented (p.paint .dim ("~ " ++ selector))]
  | .stopAnimation => []
  | .secondaryEffect isOn => if isOn then [indented (p.paint .dim "~ the air shimmers")] else []
  | .prompt text => "" :: (textLines text).map indented
  | .choices [] => []
  | .choices items => "" :: choiceLines p 1 items
  | .endingText text => "" :: (textLines text).map fun l => indented (p.paint .boldRed l)
  | .endingsProgress reached total => [indented ("Endings found: " ++ ratio reached total)]

/-- Shows something. -/
def display (t : Terminal) (d : Display) : Terminal :=
  let t := t.print (displayLines t.assets t.palette d)
  match d with
  | .choices items => { t with choices := items }
  | _ => t

/-- The lines that a scene opens with. -/
def openingLines (p : Palette) : SceneId → List String
  | .splash =>
    [indented (p.paint .bold "A branching story"),
      indented "Type 's' to start, 'a' for the alternate start, 'q' to quit."]
  | .prompts => []
  | .gameOver =>
    ["", indented (p.paint .bold "THE END" ++ "  Type 'r' to play again or 'q' to quit.")]

/-- Makes a transition; a terminal refuses none. -/
def perform (t : Terminal) : Transition → Except PresentationError Unit × Terminal
  | .prepare => (.ok (), t)
  | .enter scene => (.ok (), { t.print (openingLines t.palette scene) with scene := some scene })
  | .exit scene => (.ok (), if t.scene = some scene then { t with scene := none } else t)

@[simp] theorem perform_fst (t : Terminal) (x : Transition) : (t.perform x).1 = .ok () := by
  cases x <;> rfl

instance : Presenter Terminal where
  display := display
  perform := perform

/-! ## Reading -/

/-- The start that a command names. -/
def startNamed? (command : List Char) : Option StartVariant :=
  if command = ['s'] ∨ command = "start".toList then some .default
  else if command = ['a'] then some .alt
  else StartVariant.ofText? command

/-- The target of the choice with a typed number. -/
def choiceTarget? (t : Terminal) (line : List Char) : Option PassageId :=
  (Text.Numeral.read? UInt64.size line).bind fun n =>
    if n = 0 then none else (t.choices[n - 1]?).map (·.targetId)

/-- Answers a line that is not understood with a hint. -/
def reject (t : Terminal) (line : List Char) (hint : String) : Input × Terminal :=
  let quoted := "'" ++ String.ofList line ++ "'?"
  (.skip, t.print [indented (t.palette.paint .yellow quoted ++ " " ++ hint)])

/-- Understands a trimmed line that is neither empty nor quits. -/
def interpretCommand (t : Terminal) (line : List Char) : Input × Terminal :=
  let command := Text.foldCase line
  match t.scene with
  | none => (.skip, t)
  | some .splash =>
    match startNamed? command with
    | some v => (.choice (.start v), t)
    | none => t.reject line "type 's' to start or 'a' for the alternate start"
  | some .prompts =>
    match t.choiceTarget? line with
    | some id => (.choice (.passage id), t)
    | none => t.reject line ("pick a choice between 1 and " ++ toString t.choices.length)
  | some .gameOver =>
    if command = ['r'] ∨ command = "restart".toList then (.choice .restart, t)
    else t.reject line "type 'r' to play again"

/-- Understands a typed line. -/
def interpret (t : Terminal) (line : String) : Input × Terminal :=
  let line := Text.trim line.toList
  -- Commands are known in any case; a hint quotes the line as it was typed.
  let command := Text.foldCase line
  if line = [] then (.skip, t)
  else if command = ['q'] ∨ command = "quit".toList then (.quit, t)
  else t.interpretCommand line

end Terminal

end VisualNovel
