/-
  VisualNovel.Json.Printer

  Writing JSON: on one line without blanks (`compact`), or with one member or
  item a line, indented by two spaces a level (`pretty`). An empty list or
  object is written as its two brackets in both forms.
-/

import VisualNovel.Decimal.Shortest
import VisualNovel.Json.Quote
import VisualNovel.Json.Value

namespace VisualNovel.Json

/-- A number as it is written. -/
def Number.written : Number → List Char
  | .natural n => Text.Numeral.digits n
  | .negative n => '-' :: Text.Numeral.digits n
  | .float isNegative magnitude => magnitude.text isNegative

mutual

/-- A value on one line. -/
def compact : Json → List Char
  | .null => ['n', 'u', 'l', 'l']
  | .bool true => ['t', 'r', 'u', 'e']
  | .bool false => ['f', 'a', 'l', 's', 'e']
  | .number n => n.written
  | .string s => quote s
  | .array [] => ['[', ']']
  | .array (j :: js) => '[' :: (compact j ++ compactItems js)
  | .object [] => ['\x7b', '\x7d']
  | .object ((name, j) :: ms) => '\x7b' :: (quote name ++ ':' :: (compact j ++ compactMembers ms))

/-- The items after the first one, and the closing bracket. -/
def compactItems : List Json → List Char
  | [] => [']']
  | j :: js => ',' :: (compact j ++ compactItems js)

/-- The members after the first one, and the closing brace. -/
def compactMembers : List (String × Json) → List Char
  | [] => ['\x7d']
  | (name, j) :: ms => ',' :: (quote name ++ ':' :: (compact j ++ compactMembers ms))

end

/-- The start of a line at a level of nesting. -/
def newLine (level : Nat) : List Char :=
  '\n' :: List.replicate (2 * level) ' '

mutual

/-- A value over several lines; `level` is the nesting of the line it starts on. -/
def pretty (level : Nat) : Json → List Char
  | .null => ['n', 'u', 'l', 'l']
  | .bool true => ['t', 'r', 'u', 'e']
  | .bool false => ['f', 'a', 'l', 's', 'e']
  | .number n => n.written
  | .string s => quote s
  | .array [] => ['[', ']']
  | .array (j :: js) =>
    '[' :: (newLine (level + 1) ++ (pretty (level + 1) j ++ prettyItems level js))
  | .object [] => ['\x7b', '\x7d']
  | .object ((name, j) :: ms) =>
    '\x7b' :: (newLine (level + 1) ++
      (quote name ++ ':' :: ' ' :: (pretty (level + 1) j ++ prettyMembers level ms)))

/-- The items after the first one, and the closing bracket on its own line. -/
def prettyItems (level : Nat) : List Json → List Char
  | [] => newLine level ++ [']']
  | j :: js => ',' :: (newLine (level + 1) ++ (pretty (level + 1) j ++ prettyItems level js))

/-- The members after the first one, and the closing brace on its own line. -/
def prettyMembers (level : Nat) : List (String × Json) → List Char
  | [] => newLine level ++ ['\x7d']
  | (name, j) :: ms =>
    ',' :: (newLine (level + 1) ++
      (quote name ++ ':' :: ' ' :: (pretty (level + 1) j ++ prettyMembers level ms)))

end

end VisualNovel.Json
