/-
  VisualNovel.Json.Document

  A JSON text as far as it can be followed. A `Document` is the tree that the
  text spells out, with members in the order written and repeated names kept.
  Where the text breaks the grammar the tree ends in a `broken` leaf or an open
  `Tail`, so a reader that walks the tree from the left meets every problem of
  the text at the place where it stands, between problems of its own.

  A value that a reader skips is checked less strictly than one that it reads;
  a `Break` therefore carries one error for each.
-/

import VisualNovel.Decimal.Binary

namespace VisualNovel.Json

/-- What is wrong with a JSON text at some point. -/
inductive TextError
  | endInValue
  | endInList
  | endInObject
  | endInString
  | literalExpected
  | valueExpected
  | listCommaExpected
  | objectCommaExpected
  | colonExpected
  | keyNotString
  | trailingComma
  | trailingText
  | tooDeep
  | numberTooLarge
  | malformedNumber
  | unknownEscape
  | controlCharacter
  | unpairedSurrogate
  | unfinishedPair
  deriving DecidableEq, Repr

/-- The wording of an error in the text. -/
def TextError.message : TextError → String
  | endInValue => "EOF while parsing a value"
  | endInList => "EOF while parsing a list"
  | endInObject => "EOF while parsing an object"
  | endInString => "EOF while parsing a string"
  | literalExpected => "expected ident"
  | valueExpected => "expected value"
  | listCommaExpected => "expected `,` or `]`"
  | objectCommaExpected => "expected `,` or `\x7d`"
  | colonExpected => "expected `:`"
  | keyNotString => "key must be a string"
  | trailingComma => "trailing comma"
  | trailingText => "trailing characters"
  | tooDeep => "recursion limit exceeded"
  | numberTooLarge => "number out of range"
  | malformedNumber => "invalid number"
  | unknownEscape => "invalid escape"
  | controlCharacter => "control character (\\u0000-\\u001F) found while parsing a string"
  | unpairedSurrogate => "lone leading surrogate in hex escape"
  | unfinishedPair => "unexpected end of hex escape"

/-- A point where the text breaks the grammar: the error when reading and when skipping. -/
structure Break where
  read : TextError
  skipped : TextError
  deriving DecidableEq, Repr

/-- A break with one error for both. -/
def Break.both (e : TextError) : Break := ⟨e, e⟩

/-- A number by the widest type it needs: a 64-bit word, a negative 64-bit integer, or a float. -/
inductive Number
  | natural (n : Nat)
  /-- The integer `-n`. -/
  | negative (n : Nat)
  | float (isNegative : Bool) (magnitude : Decimal.Binary)
  deriving DecidableEq, Repr

/-- How a list or an object ends: with its bracket, or where the text breaks off. -/
inductive Tail
  | closed
  | broken (b : Break)
  deriving DecidableEq, Repr

/-- The content of a quoted string, or why it cannot be read although it ends properly. -/
abbrev Quoted := Except TextError String

/-- The tree of a JSON text. -/
inductive Document
  | null
  | bool (b : Bool)
  | number (n : Number)
  /-- A well-formed number beyond every float. -/
  | hugeNumber
  | string (s : Quoted)
  | array (items : List Document) (tail : Tail)
  | object (members : List (Quoted × Document)) (tail : Tail)
  /-- An object that does not start with a name nor end at once. -/
  | keyless (e : TextError)
  /-- The text ends or breaks the grammar in front of the value. -/
  | missing (e : TextError)
  /-- A string that breaks off. -/
  | brokenString (b : Break)
  /-- Some other value that breaks off, or something that starts no value. -/
  | broken (b : Break)

namespace Document

/-- The list of some items, properly closed. -/
abbrev list (items : List Document) : Document := .array items .closed

/-- The object with some members, properly closed. -/
abbrev record (members : List (String × Document)) : Document :=
  .object (members.map fun m => (.ok m.1, m.2)) .closed

/-- The quoted form of a text. -/
abbrev text (s : String) : Document := .string (.ok s)

end Document

end VisualNovel.Json
