/-
  VisualNovel.Json.Value

  JSON values. `Json` is what a document means once it is known to be sound:
  the members of an object are in the order in which they are to be written.
  `normalize` puts them in ascending order of names and keeps the last of
  several under one name.
-/

import VisualNovel.Json.Document
import VisualNovel.NameMap

namespace VisualNovel

/-- A JSON value. -/
inductive Json
  | null
  | bool (b : Bool)
  | number (n : Json.Number)
  | string (s : String)
  | array (items : List Json)
  | object (members : List (String × Json))

namespace Json

/-- A natural number as a value. -/
abbrev natural (n : Nat) : Json := .number (.natural n)

/-- Members in ascending order of names, the last of each name. -/
def normalize (members : List (String × Json)) : List (String × Json) :=
  (NameMap.ofList members).entries

mutual

/-- The document that spells a value out. -/
def toDocument : Json → Document
  | .null => .null
  | .bool b => .bool b
  | .number n => .number n
  | .string s => .text s
  | .array items => .list (toDocuments items)
  | .object members => .object (toMembers members) .closed

def toDocuments : List Json → List Document
  | [] => []
  | j :: js => toDocument j :: toDocuments js

def toMembers : List (String × Json) → List (Quoted × Document)
  | [] => []
  | (name, j) :: ms => (.ok name, toDocument j) :: toMembers ms

end

@[simp] theorem toDocuments_eq_map (js : List Json) : toDocuments js = js.map toDocument := by
  induction js with
  | nil => rfl
  | cons j js ih => simp [toDocuments, ih]

@[simp] theorem toMembers_eq_map (ms : List (String × Json)) :
    toMembers ms = ms.map fun m => (.ok m.1, toDocument m.2) := by
  induction ms with
  | nil => rfl
  | cons m ms ih => obtain ⟨name, j⟩ := m; simp [toMembers, ih]

end Json

end VisualNovel
