/-
  VisualNovel.Command.Endings

  The report on which endings of a story have been reached.
-/

import VisualNovel.Ledger.Basic
import VisualNovel.Text.Style
import VisualNovel.Text.Table

namespace VisualNovel.Command

open Text (Palette Table)

/-- The row of an ending. -/
def endingRow (p : Palette) (name : String) (r : EndingRecord) : List String :=
  [name, r.outcome.getD "", if r.reached then p.paint .green "yes" else p.paint .dim "no",
    match r.firstReachedAt with
    | some t => .ofList t.minuteText
    | none => "—"]

/-- The table of the story's endings. -/
def reachedTable (p : Palette) (l : Ledger) : Table where
  header := ["Ending", "Outcome", "Reached", "First reached"]
  rows := l.storyEntries.map fun e => endingRow p e.1 e.2

/-- The report on a ledger. -/
def endingsReport (p : Palette) (l : Ledger) : List String :=
  if l.total = 0 then ["  This story has no endings."]
  else
    (reachedTable p l).lines
      ++ ["", "  " ++ toString l.reachedCount ++ "/" ++ toString l.total ++ " endings reached"]

end VisualNovel.Command
