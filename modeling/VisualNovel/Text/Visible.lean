/-
  VisualNovel.Text.Visible

  Texts in double quotes for messages, with every character visible: quotes,
  backslashes and line ends have short escapes, and a character that does not
  show on its own is written as its code point.
-/

import VisualNovel.Text.Visible.Ranges

namespace VisualNovel.Text

/-- Whether a character shows on its own; those of printable ASCII do. -/
def isVisible (c : Char) : Bool :=
  (' ' ≤ c && c ≤ '~') || !hidden.contains c

/-- A character as it is written in quotes. -/
def visible (c : Char) : List Char :=
  if c = '"' then ['\\', '"']
  else if c = '\\' then ['\\', '\\']
  else if c = '\n' then ['\\', 'n']
  else if c = '\r' then ['\\', 'r']
  else if c = '\t' then ['\\', 't']
  else if c = '\x00' then ['\\', '0']
  else if isVisible c then [c]
  else ['\\', 'u', '\x7b'] ++ Nat.toDigits 16 c.toNat ++ ['\x7d']

/-- A text in quotes. -/
def inspect (s : String) : String :=
  .ofList ('"' :: (s.toList.flatMap visible ++ ['"']))

end VisualNovel.Text
