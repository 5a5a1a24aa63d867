/-
  VisualNovel.Wire.Basic

  Values that are exchanged as JSON. A type of such values has a reader and a
  JSON form; texts are written on one line.
-/

import VisualNovel.Json.Printer
import VisualNovel.Json.Reader

namespace VisualNovel

/-- A type whose values are exchanged as JSON. -/
class Wire (α : Type) where
  read : Json.Reader α
  toJson : α → Json

namespace Wire

variable {α : Type} [Wire α]

/-- Reads a value from a text. -/
def decode (s : String) : Except Json.Problem α :=
  Json.readText read s

/-- Writes a value on one line. -/
def encode (a : α) : String :=
  .ofList (Json.compact (toJson a))

end Wire

end VisualNovel
