/-
  VisualNovel.Command.Run

  Running the program on a volume: what it prints, how it ends, and the volume
  after it.
-/

import VisualNovel.Command.Arguments
import VisualNovel.Command.Check
import VisualNovel.Command.Endings
import VisualNovel.Command.Play

namespace VisualNovel.Command

open Text (Palette)
open Time (Instant)

/-- How the program ends. -/
inductive Conclusion
  | success
  | failure (e : Failure)
  | misuse
  deriving DecidableEq, Repr

/-- The exit code of a conclusion. -/
def Conclusion.exitCode : Conclusion → UInt8
  | .success => 0
  | .failure _ => 1
  | .misuse => 2

/-- The conclusion of a command. -/
def Conclusion.ofResult : Except Failure Unit → Conclusion
  | .ok () => .success
  | .error e => .failure e

/-- What the program leaves behind. -/
structure Outcome (σ : Type) where
  /-- The lines it printed. -/
  output : List String
  conclusion : Conclusion
  volume : σ

/-- The surroundings of the program: its input, its colours and the time. -/
structure Surroundings where
  input : List UInt8
  palette : Palette
  now : Instant

/-- The file that a ledger is saved in. -/
def savePath (directory : String) : String :=
  childPath directory (({} : Config).ledgerKey ++ ".json")

/-- The files that a request may read. -/
def Request.paths : Request → List String
  | .play story assets directory _ => story :: savePath directory :: assets.toList
  | .check story assets => story :: assets.toList
  | .endings story directory => [story, savePath directory]

variable {σ : Type} [Volume σ]

/-- The outcome of a report that only reads the volume. -/
def Outcome.ofReport (volume : σ) : Except Failure (List String) → Outcome σ
  | .ok lines => ⟨lines, .success, volume⟩
  | .error e => ⟨[], .failure e, volume⟩

/-- Checks a story. -/
def checkStory (volume : σ) (p : Palette) (story : String) (assets : Option String) :
    Except Failure (List String) :=
  (loadStory volume story).bind fun s => (loadAssets volume assets).map (checkReport p s)

/-- Reports on the endings of a story. -/
def listEndings (volume : σ) (p : Palette) (story directory : String) : Except Failure (List String) :=
  (loadStory volume story).bind fun s =>
    let store : FileStore σ := { volume, directory }
    ((Ledger.hydrate s store ({} : Config).ledgerKey).mapError (.unreadableEndings directory)).map
      (endingsReport p)

/-- Plays a story. -/
def playStory (volume : σ) (around : Surroundings) (story : String) (assets : Option String)
    (directory : String) (isScript : Bool) : Outcome σ :=
  match Player.setUp volume around.palette story assets directory with
  | (.error e, volume) => ⟨[], .failure e, volume⟩
  | (.ok c, _) =>
    let (result, c) := c.play isScript (inputLines around.input) around.now
    ⟨c.output result, .ofResult result, c.store.volume⟩

/-- Does what is asked. -/
def Request.run (volume : σ) (around : Surroundings) : Request → Outcome σ
  | .play story assets directory isScript => playStory volume around story assets directory isScript
  | .check story assets => .ofReport volume (checkStory volume around.palette story assets)
  | .endings story directory => .ofReport volume (listEndings volume around.palette story directory)

/-- Runs the program on a command line. -/
def run (volume : σ) (around : Surroundings) (arguments : List String) : Outcome σ :=
  match Wish.ofArguments arguments with
  | .misuse => ⟨[], .misuse, volume⟩
  | .print page => ⟨page.lines around.palette, .success, volume⟩
  | .run request => request.run volume around

end VisualNovel.Command
