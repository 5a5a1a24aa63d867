/-
  VisualNovel.Ledger.Save

  Saved endings: a record for each name, and their JSON form. A record is written
  as an object that leaves unknown things out. When it is read, a truth value or
  the tag of an outcome may stand in its place, as older saves have it.

  `merge` joins two saves name by name; `get?_merge` says what it does.
-/

import VisualNovel.Json.Printer
import VisualNovel.Json.Reader
import VisualNovel.Ledger.Record
import VisualNovel.Time.Timestamp

namespace VisualNovel

open Json (Reader)
open Time (Instant)

/-! ## JSON form of a record -/

namespace EndingRecord

/-- Reads an instant from the text of a timestamp. -/
def readInstant : Reader Instant
  | _, .string (.ok s) => (Instant.ofText s.toList).mapError fun e => .rejected e.message
  | _, d => .error (d.mismatch "an RFC 3339 formatted date and time string")

/-- Reads a record in full. -/
def read : Reader EndingRecord :=
  Json.record "struct EndingRecord"
    (.required "reached" Json.flag <| .optional "outcome" (Json.option Json.text) none <|
      .optional "first_reached_at" (Json.option readInstant) none .nil)
    fun (reached, outcome, firstReachedAt, ()) => { reached, outcome, firstReachedAt }

/-- The record that a lone truth value stands for. -/
def ofFlag (reached : Bool) : EndingRecord :=
  { reached }

/-- The record that a lone outcome tag stands for. -/
def ofTag (tag : String) : EndingRecord :=
  { reached := true, outcome := some tag }

/-- Reads a record in any of its forms. -/
def readSaved : Reader EndingRecord :=
  Json.untagged "SavedRecord"
    [read, fun room d => (Json.flag room d).map ofFlag, fun room d => (Json.text room d).map ofTag]

/-- The member of an object for something that may be unknown. -/
def knownMember (name : String) (value : Option Json) : List (String × Json) :=
  value.toList.map fun j => (name, j)

/-- A record as JSON. -/
def toJson (r : EndingRecord) : Json :=
  .object <|
    ("reached", .bool r.reached) ::
      (knownMember "outcome" (r.outcome.map .string) ++
        knownMember "first_reached_at" (r.firstReachedAt.map fun t => .string (.ofList t.text)))

end EndingRecord

/-! ## Saves -/

/-- Records by the name of their ending. -/
abbrev Save := NameMap EndingRecord

namespace Save

/-- Joins a record into the one under a name. -/
def mergeAt (s : Save) (name : String) (r : EndingRecord) : Save :=
  s.alter name fun old => (old.getD {}).merge r

/-- Joins every record of another save into this one. -/
def merge (s other : Save) : Save :=
  other.entries.foldl (fun s e => s.mergeAt e.1 e.2) s

/-- Reads a save. -/
def read : Reader Save :=
  Json.map EndingRecord.readSaved

/-- Reads a save from a text. -/
def decode (s : String) : Except Json.Problem Save :=
  Json.readText read s

/-- A save as JSON. -/
def toJson (s : Save) : Json :=
  .object (s.entries.map fun e => (e.1, e.2.toJson))

/-- Writes a save over several lines. -/
def encode (s : Save) : String :=
  .ofList (Json.pretty 0 (toJson s))

/-! ### Joining, name by name -/

theorem get?_mergeAt (s : Save) (name other : String) (r : EndingRecord) :
    (mergeAt s name r).get? other =
      if other = name then some (((s.get? name).getD {}).merge r) else s.get? other :=
  NameMap.get?_alter ..

theorem get?_foldl_mergeAt {es : List (String × EndingRecord)}
    (h : es.Pairwise (fun a b => a.1 < b.1)) (s : Save) (name : String) :
    (es.foldl (fun s e => mergeAt s e.1 e.2) s).get? name =
      match NameMap.find? name es with
      | none => s.get? name
      | some r => some (((s.get? name).getD {}).merge r) := by
  induction es generalizing s with
  | nil => rfl
  | cons e es ih =>
    obtain ⟨k, v⟩ := e
    have hrest := List.pairwise_cons.1 h
    rw [List.foldl_cons, ih hrest.2]
    by_cases hk : name = k
    · subst hk
      have hnone : NameMap.find? name es = none := NameMap.find?_eq_none_of_forall fun e he heq =>
        String.lt_irrefl _ (heq ▸ hrest.1 e he)
      simp [NameMap.find?, hnone, get?_mergeAt]
    · simp [NameMap.find?, Ne.symm hk, get?_mergeAt, hk]

/-- What joining two saves does to each name. -/
theorem get?_merge (s other : Save) (name : String) :
    (merge s other).get? name =
      match other.get? name with
      | none => s.get? name
      | some r => some (((s.get? name).getD {}).merge r) :=
  get?_foldl_mergeAt other.ascending s name

theorem contains_merge (s other : Save) (name : String) :
    (merge s other).contains name = (s.contains name || other.contains name) := by
  simp only [NameMap.contains, get?_merge]
  split <;> simp_all

end Save

end VisualNovel
