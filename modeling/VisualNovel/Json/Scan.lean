/-
  VisualNovel.Json.Scan

  From a text to its `Document`. `scanValue` follows one value from the left and
  gives the text after it, or `none` if the text breaks off inside. The fuel is
  a bound on the steps; `Document.ofText` starts with more than the text needs.
-/

import VisualNovel.Json.Numeral
import VisualNovel.Json.Quote

namespace VisualNovel.Json

/-- The blanks between the symbols of a JSON text. -/
def isSpace (c : Char) : Bool :=
  c == ' ' || c == '\n' || c == '\t' || c == '\r'

/-- Drops blanks at the front. -/
def skipSpace (cs : List Char) : List Char :=
  cs.dropWhile isSpace

/-- Follows the letters of a literal. -/
def scanLiteral (d : Document) : List Char → List Char → Document × Option (List Char)
  | [], cs => (d, some cs)
  | _ :: _, [] => (.broken (.both .endInValue), none)
  | w :: ws, c :: cs =>
    if c = w then scanLiteral d ws cs else (.broken (.both .literalExpected), none)

/-- Follows a number. -/
def scanNumber (cs : List Char) : Document × Option (List Char) :=
  match scanNumeral cs with
  | .error b => (.broken b, none)
  | .ok (n, rest) =>
    match n.number? with
    | some x => (.number x, some rest)
    | none => (.hugeNumber, some rest)

mutual

/-- Follows one value. -/
def scanValue : Nat → List Char → Document × Option (List Char)
  | 0, _ => (.missing .endInValue, none)
  | fuel + 1, cs =>
    match skipSpace cs with
    | [] => (.missing .endInValue, none)
    | c :: cs =>
      if c = 'n' then scanLiteral .null ['u', 'l', 'l'] cs
      else if c = 't' then scanLiteral (.bool true) ['r', 'u', 'e'] cs
      else if c = 'f' then scanLiteral (.bool false) ['a', 'l', 's', 'e'] cs
      else if c = '"' then
        match scanString cs with
        | .ok (s, rest) => (.string s, some rest)
        | .error b => (.brokenString b, none)
      else if c = '[' then
        match skipSpace cs with
        | [] => (.array [] (.broken (.both .endInList)), none)
        | ']' :: rest => (.array [] .closed, some rest)
        | rest =>
          let (items, tail, rest) := scanItems fuel rest
          (.array items tail, rest)
      else if c = '\x7b' then
        match skipSpace cs with
        | [] => (.keyless .endInObject, none)
        | '\x7d' :: rest => (.object [] .closed, some rest)
        | '"' :: rest =>
          let (members, tail, rest) := scanMembers fuel rest
          (.object members tail, rest)
        | _ => (.keyless .keyNotString, none)
      else if c = '-' ∨ c.isDigit then scanNumber (c :: cs)
      else (.broken (.both .valueExpected), none)

/-- Follows the items of a list from one item on. -/
def scanItems : Nat → List Char → List Document × Tail × Option (List Char)
  | 0, _ => ([], .broken (.both .endInValue), none)
  | fuel + 1, cs =>
    match scanValue fuel cs with
    -- The break is inside the item; a reader never gets to the tail.
    | (d, none) => ([d], .closed, none)
    | (d, some cs) =>
      match skipSpace cs with
      | [] => ([d], .broken (.both .endInList), none)
      | c :: cs =>
        if c = ']' then ([d], .closed, some cs)
        else if c = ',' then
          match skipSpace cs with
          | [] => ([d], .broken (.both .endInValue), none)
          | ']' :: _ => ([d], .broken ⟨.trailingComma, .valueExpected⟩, none)
          | cs =>
            let (items, tail, rest) := scanItems fuel cs
            (d :: items, tail, rest)
        else ([d], .broken (.both .listCommaExpected), none)

/-- Follows the members of an object from inside the quotes of a name on. -/
def scanMembers : Nat → List Char → List (Quoted × Document) × Tail × Option (List Char)
  | 0, _ => ([], .broken (.both .endInValue), none)
  | fuel + 1, cs =>
    match scanString cs with
    | .error b => ([], .broken b, none)
    | .ok (key, cs) =>
      match skipSpace cs with
      | [] => ([(key, .missing .endInObject)], .closed, none)
      | c :: cs =>
        if c = ':' then
          match scanValue fuel cs with
          | (d, none) => ([(key, d)], .closed, none)
          | (d, some cs) =>
            match skipSpace cs with
            | [] => ([(key, d)], .broken (.both .endInObject), none)
            | c :: cs =>
              if c = '\x7d' then ([(key, d)], .closed, some cs)
              else if c = ',' then
                match skipSpace cs with
                | [] => ([(key, d)], .broken ⟨.endInValue, .endInObject⟩, none)
                | '\x7d' :: _ => ([(key, d)], .broken ⟨.trailingComma, .keyNotString⟩, none)
                | '"' :: cs =>
                  let (members, tail, rest) := scanMembers fuel cs
                  ((key, d) :: members, tail, rest)
                | _ => ([(key, d)], .broken (.both .keyNotString), none)
              else ([(key, d)], .broken (.both .objectCommaExpected), none)
        else ([(key, .missing .colonExpected)], .closed, none)

end

/-- The document of a text, and what is wrong with the text after it. -/
def Document.ofText (cs : List Char) : Document × Option TextError :=
  -- Each character costs at most two steps: one for an item or member, one for its value.
  match scanValue (2 * cs.length + 2) cs with
  | (d, none) => (d, some .endInValue)
  | (d, some rest) => (d, if skipSpace rest = [] then none else some .trailingText)

end VisualNovel.Json
