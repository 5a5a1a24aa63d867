/-
  VisualNovel.Story.Outcome

  Outcomes of passages. Some tags are markers, in a fixed order of priority; the
  first marker that a passage carries is its outcome. An `end` outcome ends the
  play, a `menu` outcome shows nothing, and all but menus are tallied.
-/

import VisualNovel.Story.Passage

namespace VisualNovel

/-- What a classified passage means for the play. -/
inductive OutcomeCategory
  | path
  | ending
  | menu
  deriving DecidableEq, Repr

def OutcomeCategory.name : OutcomeCategory → String
  | .path => "PATH"
  | .ending => "END"
  | .menu => "MENU"

/-- A marker with its category. -/
structure Outcome where
  tag : String
  category : OutcomeCategory
  deriving DecidableEq, Repr

namespace Outcome

/-- The outcome's text: the tag with its category. -/
def text (o : Outcome) : String :=
  o.tag ++ " (" ++ o.category.name ++ ")"

/-- Whether the outcome counts in a session's tally. -/
def isTallied (o : Outcome) : Bool :=
  o.category != .menu

/-- Whether the outcome ends the play. -/
def isEnding (o : Outcome) : Bool :=
  o.category == .ending

/-- The markers, highest priority first. -/
def markers : List Outcome :=
  [⟨"BAD-END", .ending⟩, ⟨"Good-End", .ending⟩, ⟨"Neutral-End", .ending⟩, ⟨"Neutral-Path", .path⟩,
    ⟨"GOOD", .path⟩, ⟨"EGG", .ending⟩, ⟨"Menu-page", .menu⟩]

/-- The first marker among some tags. -/
def ofTags (tags : NameSet) : Option Outcome :=
  markers.find? fun m => tags.contains m.tag

end Outcome

/-- A passage's outcome. -/
def Passage.outcome (p : Passage) : Option Outcome :=
  Outcome.ofTags p.tags

/-- Whether a passage ends the play. -/
def Passage.isEnding (p : Passage) : Bool :=
  p.outcome.any Outcome.isEnding

end VisualNovel
