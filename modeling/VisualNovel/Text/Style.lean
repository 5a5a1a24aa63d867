/-
  VisualNovel.Text.Style

  Colours and weights of printed text, as terminal control sequences. Without
  colours a text is printed as it is. A style goes on behind a sequence inside
  the text that ends all styles.
-/

namespace VisualNovel.Text

/-- How a piece of text stands out. -/
inductive Style
  | bold
  | dim
  | green
  | yellow
  | boldYellow
  | boldRed
  /-- For titles: bold and underlined. -/
  | title
  deriving DecidableEq, Repr

/-- Whether text is printed in colours. -/
inductive Palette
  | plain
  | colored
  deriving DecidableEq, Repr

namespace Style

/-- The codes of each control sequence of a style, a weight before a colour. -/
def codes : Style → List String
  | .bold => ["1"]
  | .dim => ["2"]
  | .green => ["32"]
  | .yellow => ["33"]
  | .boldYellow => ["1;33"]
  | .boldRed => ["1;31"]
  | .title => ["1", "4"]

/-- The control sequences that turn a style on. -/
def opening (s : Style) : List Char :=
  s.codes.flatMap fun c => '\x1b' :: '[' :: (c.toList ++ ['m'])

/-- The control sequence that turns every style off. -/
def closing : List Char :=
  ['\x1b', '[', '0', 'm']

/-- Turns a style on again wherever a text turns it off. -/
def reopen (s : Style) : List Char → List Char
  | [] => []
  -- The sequence stays; the style starts again behind it.
  | '\x1b' :: '[' :: '0' :: 'm' :: cs => closing ++ (s.opening ++ reopen s cs)
  | c :: cs => c :: reopen s cs

end Style

/-- A text in a style, as far as there are colours. -/
def Palette.paint (p : Palette) (s : Style) (text : String) : String :=
  match p with
  | .plain => text
  | .colored => .ofList (s.opening ++ (s.reopen text.toList ++ Style.closing))

end VisualNovel.Text
