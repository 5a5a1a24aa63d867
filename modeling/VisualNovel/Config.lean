/-
  VisualNovel.Config

  Settings of a play: the delimiter between prompt and link markup, the key that
  the endings are saved under, and the names shown where nothing more specific
  applies.
-/

import VisualNovel.Story.Passage

namespace VisualNovel

/-- The settings of a play. -/
structure Config where
  linkDelimiter : String := VisualNovel.linkDelimiter
  ledgerKey : String := "endings"
  defaultBackground : String := "default"
  defaultAnimation : String := "default"
  deriving DecidableEq, Repr

namespace Config

instance : Inhabited Config := ⟨{}⟩

/-- Sets the link delimiter; an empty one is ignored. -/
def withLinkDelimiter (c : Config) (delimiter : String) : Config :=
  if delimiter = "" then c else { c with linkDelimiter := delimiter }

end Config

end VisualNovel
