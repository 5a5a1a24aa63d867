/-
  VisualNovel.Text.Delimiter

  The part of a text before the first place where a delimiter stands. An empty
  delimiter cuts nothing off.
-/

namespace VisualNovel.Text

/-- The characters before the first occurrence of a non-empty delimiter. -/
def beforeFirst (delimiter : List Char) : List Char → List Char
  | [] => []
  | c :: cs => if delimiter.isPrefixOf (c :: cs) then [] else c :: beforeFirst delimiter cs

/-- The part of a text before a delimiter. -/
def before (delimiter cs : List Char) : List Char :=
  if delimiter = [] then cs else beforeFirst delimiter cs

@[simp] theorem beforeFirst_nil (delimiter : List Char) : beforeFirst delimiter [] = [] := rfl

@[simp] theorem before_nil_left (cs : List Char) : before [] cs = cs := rfl

end VisualNovel.Text
