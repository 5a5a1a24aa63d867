/-
  VisualNovel.Wire.Story

  JSON forms of a story's parts: ids, starts, links, passages and outcomes.
-/

import VisualNovel.Story.Outcome
import VisualNovel.Wire.Basic

namespace VisualNovel

open Json (Reader)

instance : Wire PassageId where
  read := Json.word
  toJson id := .natural id.toNat

namespace StartVariant

/-- The starts by their names. -/
def wireNames : List (String × StartVariant) :=
  [default, alt].map fun v => (v.name, v)

instance : Wire StartVariant where
  read := Json.variant wireNames
  toJson v := .string v.name

end StartVariant

namespace Link

def read : Reader Link :=
  Json.record "struct Link"
    (.required "label" Json.text <| .required "target_name" Json.text <|
      .required "target_id" Json.word .nil)
    fun (label, targetName, targetId, ()) => { label, targetName, targetId }

def toJson (l : Link) : Json :=
  .object [("label", .string l.label), ("target_name", .string l.targetName),
    ("target_id", Wire.toJson l.targetId)]

instance : Wire Link := ⟨read, toJson⟩

end Link

namespace Passage

def read : Reader Passage :=
  Json.record "struct Passage"
    (.required "id" Json.word <| .required "name" Json.text <| .required "text" Json.text <|
      .optional "tags" (Json.list Json.text) [] <| .optional "links" (Json.list Link.read) [] .nil)
    fun (id, name, text, tags, links, ()) =>
      { id, name, text, tags := NameSet.ofNames tags, links }

def toJson (p : Passage) : Json :=
  .object [("id", Wire.toJson p.id), ("name", .string p.name), ("text", .string p.text),
    ("tags", .array (p.tags.names.map .string)), ("links", .array (p.links.map Link.toJson))]

instance : Wire Passage := ⟨read, toJson⟩

end Passage

namespace OutcomeCategory

/-- The categories by their names. -/
def wireNames : List (String × OutcomeCategory) :=
  [path, ending, menu].map fun c => (c.name, c)

instance : Wire OutcomeCategory where
  read := Json.variant wireNames
  toJson c := .string c.name

end OutcomeCategory

namespace Outcome

def read : Reader Outcome :=
  Json.record "struct Outcome"
    (.required "tag" Json.text <| .required "category" (Json.variant OutcomeCategory.wireNames) .nil)
    fun (tag, category, ()) => { tag, category }

def toJson (o : Outcome) : Json :=
  .object [("tag", .string o.tag), ("category", Wire.toJson o.category)]

instance : Wire Outcome := ⟨read, toJson⟩

end Outcome

end VisualNovel
