/-
  VisualNovel.Text.Letter

  ASCII letters without regard to case, as typed commands are compared.
-/

namespace VisualNovel.Text

/-- Folds the ASCII capitals of a text to small letters. -/
def foldCase (cs : List Char) : List Char :=
  cs.map Char.toLower

end VisualNovel.Text
