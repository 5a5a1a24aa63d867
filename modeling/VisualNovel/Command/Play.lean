/-
  VisualNovel.Command.Play

  Playing a story on a terminal. A script is handled line by line, each line
  before the next one is read. Otherwise the lines are events, and those that
  come in while the scene changes are dropped.
-/

import VisualNovel.Command.Sources
import VisualNovel.Stage.Terminal
import VisualNovel.Store.File

namespace VisualNovel.Command

open Text (Palette)
open Time (Instant)

/-- A play on a terminal whose ledger is kept in a directory. -/
abbrev Player (σ : Type) := Controller Terminal (FileStore σ)

/-- A line of input; a line that is no text cannot be read. -/
abbrev InputLine := Except IoError String

/-- Takes away a carriage return at the end of a line. -/
def dropReturn (line : List UInt8) : List UInt8 :=
  if line.getLast? = some 13 then line.dropLast else line

/-- The text that some bytes spell. -/
def decodeLine (line : List UInt8) : InputLine :=
  match String.fromUTF8? ⟨line.toArray⟩ with
  | some s => .ok s
  | none => .error .notText

/-- The lines of some bytes; a return belongs to the line feed after it. -/
def inputLines (bytes : List UInt8) : List InputLine :=
  let pieces := Text.splitOn (· == 10) bytes
  let rest := pieces.getLast?.getD []
  (pieces.dropLast.map dropReturn ++ (if rest = [] then [] else [rest])).map decodeLine

namespace Player

variable {σ : Type} [Volume σ]

/-- Sets up a play: reads the story and the assets, makes the save directory, loads the ledger. -/
def setUp (volume : σ) (p : Palette) (story : String) (assets : Option String) (directory : String) :
    Except Failure (Player σ) × σ :=
  let read := (loadStory volume story).bind fun s =>
    (loadAssets volume assets).map fun m => (s, m.getD .empty)
  match read with
  | .error e => (.error e, volume)
  | .ok (s, m) =>
    match Volume.makeDirectories volume directory with
    | (.error e, volume) => (.error (.noSaveDirectory directory e), volume)
    | (.ok (), volume) =>
      let terminal : Terminal := { assets := m, palette := p }
      let store : FileStore σ := { volume, directory }
      ((Controller.hydrate ⟨s, m, {}⟩ terminal store).mapError .unloadedEndings, volume)

/-- Shows the start screen. -/
def begin (c : Player σ) (now : Instant) : Except Failure Unit × Player σ :=
  let (result, c) := c.start now
  (result.mapError .play, c)

/-- Handles the lines of a script one after another. -/
def script (now : Instant) (c : Player σ) : List InputLine → Except Failure Unit × Player σ
  | [] => (.ok (), c)
  | .error e :: _ => (.error (.unreadableInput e), c)
  | .ok line :: rest =>
    match c.handle Terminal.interpret line now with
    | (.goesOn, c) => script now c rest
    | (.changedScene, c) => script now c rest
    | (.quits, c) => (.ok (), c)
    | (.fails e, c) => (.error (.play e), c)

/-- The lines up to the first one that cannot be read. -/
def readable : List InputLine → List String
  | .ok line :: rest => line :: readable rest
  | _ => []

/-- Handles lines that are all sent before the first one is handled. -/
def interactive (now : Instant) (c : Player σ) (lines : List InputLine) :
    Except Failure Unit × Player σ :=
  let l := c.run Terminal.interpret (readable lines) now
  match l.result with
  | some (.error e) => (.error (.play e), l.controller)
  | _ => (.ok (), l.controller)

/-- The closing lines of a play. -/
def closingLines (c : Player σ) : List String :=
  ["", "  " ++ c.presenter.palette.paint .bold "Endings found:" ++ " " ++
    Terminal.ratio c.ledger.reachedCount c.ledger.total]

/-- Plays on some lines of input from beginning to end. -/
def play (c : Player σ) (isScript : Bool) (lines : List InputLine) (now : Instant) :
    Except Failure Unit × Player σ :=
  match c.begin now with
  | (.error e, c) => (.error e, c)
  | (.ok (), c) => if isScript then script now c lines else interactive now c lines

/-- All that a play prints. -/
def output (c : Player σ) (result : Except Failure Unit) : List String :=
  c.presenter.printed ++
    (match result with
    | .ok () => c.closingLines
    | .error _ => [])

end Player

end VisualNovel.Command
