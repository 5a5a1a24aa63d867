/-
  VisualNovel.Command.Check

  The report on a story: its size, starts and endings, the passages that neither
  start leads to, and animations for passages that it does not have.
-/

import VisualNovel.Assets
import VisualNovel.Story.Reachable
import VisualNovel.Text.Style
import VisualNovel.Text.Table

namespace VisualNovel

/-- The passages that neither start leads to. Menus are entered from elsewhere and do not count. -/
def Story.unreachable (s : Story) : List Passage :=
  let reached := s.reachableFrom s.start ++ s.reachableFrom s.altStart
  s.passages.filter fun p =>
    p.id ∉ reached ∧ p.outcome.map (·.category) ≠ some .menu

namespace Command

open Text (Palette Table)

/-- A count with its noun. -/
def counted (n : Nat) (noun : String) : String :=
  toString n ++ " " ++ noun ++ (if n = 1 then "" else "s")

/-- The mark of a warning. -/
def warning (p : Palette) : String :=
  p.paint .boldYellow "warning:"

/-- The table of a story's endings. -/
def endingsTable (s : Story) : Table where
  header := ["Id", "Ending", "Outcome"]
  rows := s.endings.map fun e => [toString e.id, e.name, (e.outcome.map (·.tag)).getD ""]

/-- The lines about a story's endings; none if it has none. -/
def endingsLines (s : Story) : List String :=
  if s.endings = [] then [] else (endingsTable s).lines

/-- The lines about passages that cannot be reached. -/
def unreachableLines (p : Palette) (s : Story) : List String :=
  let unreachable := s.unreachable
  if unreachable = [] then ["  Every passage is reachable."]
  else
    ("  " ++ warning p ++ " " ++ counted unreachable.length "passage" ++
        " unreachable from either start:") ::
      unreachable.map fun q => "    " ++ p.paint .dim (toString q.id) ++ " " ++ q.name

/-- The lines about the assets of a story. -/
def assetsLines (p : Palette) (s : Story) (m : AssetManifest) : List String :=
  ("  " ++ toString m.backgrounds.size ++ " backgrounds, " ++ toString m.animations.size ++ " animations") ::
    (m.animations.names.filter fun name => (s.findByName? name).isNone).map fun name =>
      "  " ++ warning p ++ " animation for unknown passage '" ++ name ++ "'"

/-- The report on a story and its assets, if there are any. -/
def checkReport (p : Palette) (s : Story) (assets : Option AssetManifest) : List String :=
  ["  " ++ toString s.size ++ " passages, " ++ toString s.endings.length ++ " endings",
    "  start: " ++ toString s.start ++ ", alternate start: " ++ toString s.altStart]
    ++ endingsLines s ++ unreachableLines p s
    ++ (match assets with
      | none => []
      | some m => assetsLines p s m)

end Command

end VisualNovel
