/-
  VisualNovel.Json.Tagged

  Alternatives that a tag inside the value tells apart. The value is an object
  with the tag among its members, or a list that starts with the tag. It is read
  as a whole first; what is left without the tag is then read as the content of
  the alternative, by readers for sound documents (`heldVariant`, `heldUnit`).
-/

import VisualNovel.Json.Reader

namespace VisualNovel.Json

/-- Reads the tag of an alternative. -/
def variantTag (known : List (String × α)) : Document → Except Problem α
  | .string (.ok name) => variantNamed known name
  | d => .error (d.mismatch "variant identifier")

/-- Takes the tag out of an object's members; the others have to be sound. -/
def takeTag (tag : String) (known : List (String × α)) (room : Nat) :
    List (Quoted × Document) → Option α → Except Problem (Option α × List (Quoted × Document))
  | [], found => .ok (found, [])
  | (.error e, _) :: _, _ => .error (.text e)
  | (.ok name, d) :: ms, found =>
    if name = tag then
      match found with
      | some _ => .error (.duplicateField tag)
      | none => (variantTag known d).bind fun a => takeTag tag known room ms (some a)
    else
      (value room d).bind fun _ =>
        (takeTag tag known room ms found).map fun (found, rest) => (found, (.ok name, d) :: rest)

/-- Reads the alternative that a tag names from the rest of the value. -/
def tagged (tag what : String) (known : List (String × (Document → Except Problem α))) : Reader α
  | room, .object ms tail =>
    enter room fun room =>
      (takeTag tag known room ms none).bind fun (found, rest) =>
        tail.read.bind fun _ =>
          match found with
          | some content => content (.object rest .closed)
          | none => .error (.missingField tag)
  | room, .array [] tail =>
    enter room fun _ => tail.read.bind fun _ => .error (.missingField tag)
  | room, .array (d :: ds) tail =>
    enter room fun room =>
      (variantTag known d).bind fun content =>
        (values room ds).bind fun _ => tail.read.bind fun _ => content (.array ds .closed)
  | room, .keyless e => enter room fun _ => .error (.text e)
  | _, d => .error (d.mismatch what)

/-! ## Reading content -/

/-- Reads nothing but null or an object without members. -/
def heldUnit : Document → Except Problem Unit
  | .null => .ok ()
  | .object [] .closed => .ok ()
  | d => .error (d.mismatch "unit")

/-- Reads a variant without content from a sound document. -/
def heldVariant (known : List (String × α)) : Reader α
  | _, .string (.ok name) => variantNamed known name
  | _, .object [(.ok name, d)] .closed =>
    (variantNamed known name).bind fun a => (heldUnit d).map fun _ => a
  | _, .object _ _ => .error (.invalidValue .object "map with a single key")
  | _, d => .error (d.mismatch "string or map")

end VisualNovel.Json
