/-
  VisualNovel.Story.Passage

  Passages, the units of a branching story: a text, tags that classify it, and
  links to other passages. A story has two designated starts, named by a
  `StartVariant`.
-/

import VisualNovel.NameMap
import VisualNovel.Text.Blank
import VisualNovel.Text.Delimiter
import VisualNovel.Text.Letter

namespace VisualNovel

/-- The number of a passage. Passages of a story are numbered from 1 without gaps. -/
abbrev PassageId := UInt32

/-- A choice that leads from one passage to another. -/
structure Link where
  label : String
  targetName : String
  targetId : PassageId
  deriving DecidableEq, Repr

/-- A unit of the story. -/
structure Passage where
  id : PassageId
  name : String
  /-- The text with the markup of its links behind the first delimiter. -/
  text : String
  tags : NameSet
  links : List Link
  deriving DecidableEq

/-- What separates a passage's prompt from the markup of its links. -/
def linkDelimiter : String := "[["

/-- The part of a passage's text that is shown: all of it before the delimiter. -/
def Passage.prompt (p : Passage) (delimiter : String) : String :=
  .ofList (Text.before delimiter.toList p.text.toList)

/-- Which of the two starts a story is played from. -/
inductive StartVariant
  | default
  | alt
  deriving DecidableEq, Repr

instance : Inhabited StartVariant := ⟨.default⟩

namespace StartVariant

def name : StartVariant → String
  | .default => "default"
  | .alt => "alt"

/--
Reads a variant's name without regard to case and surrounding blanks; nothing at all is the default
start. Folding ASCII letters is enough, since no other letter folds to a letter of these names.
-/
def ofText? (cs : List Char) : Option StartVariant :=
  let name := String.ofList (Text.foldCase (Text.trim cs))
  if name = "default" ∨ name = "" then some .default
  else if name = "alt" ∨ name = "alternate" then some .alt
  else none

end StartVariant

end VisualNovel
