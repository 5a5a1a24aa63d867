/-
  VisualNovel.Wire.Stage

  JSON forms of what the presentation and the play exchange: scenes, offered
  choices, animations and the reader's choices. A reader's choice has the tag
  `action`.
-/

import VisualNovel.Assets
import VisualNovel.Json.Tagged
import VisualNovel.Ledger.Save
import VisualNovel.Stage.Directive
import VisualNovel.Wire.Story

namespace VisualNovel

open Json (Reader Problem Document)

namespace SceneId

/-- The name that a scene is exchanged by. -/
def wireName : SceneId → String
  | .splash => "splash"
  | .prompts => "prompts"
  | .gameOver => "game_over"

/-- The scenes by their names. -/
def wireNames : List (String × SceneId) :=
  [splash, prompts, gameOver].map fun s => (s.wireName, s)

instance : Wire SceneId where
  read := Json.variant wireNames
  toJson s := .string s.wireName

end SceneId

namespace ChoiceItem

def read : Reader ChoiceItem :=
  Json.record "struct ChoiceItem"
    (.required "label" Json.text <| .required "target_id" Json.word .nil)
    fun (label, targetId, ()) => { label, targetId }

def toJson (c : ChoiceItem) : Json :=
  .object [("label", .string c.label), ("target_id", Wire.toJson c.targetId)]

instance : Wire ChoiceItem := ⟨read, toJson⟩

end ChoiceItem

instance : Wire AnimationCue where
  read := AnimationCue.read
  toJson c := .object [("animation", .string c.animation), ("secondary_effect", .bool c.secondaryEffect)]

instance : Wire EndingRecord where
  read := EndingRecord.read
  toJson := EndingRecord.toJson

namespace UserChoice

/-- Reads the content of a passage choice. -/
def readPassage : Reader UserChoice :=
  Json.record "struct variant UserChoice::Passage" (.required "target_id" Json.word .nil)
    fun (id, ()) => .passage id

/-- Reads the content of a start. -/
def readStart : Reader UserChoice :=
  Json.record "struct variant UserChoice::Start"
    (.optional "variant" (Json.heldVariant StartVariant.wireNames) .default .nil)
    fun (variant, ()) => .start variant

/-- Reads the content of a restart: any members, but no items. -/
def readRestart : Document → Except Problem UserChoice
  | .array (_ :: ds) _ => .error (.extraItems (ds.length + 1) 0)
  | _ => .ok .restart

def read : Reader UserChoice :=
  Json.tagged "action" "internally tagged enum UserChoice"
    [("passage", readPassage Json.maximalRoom), ("start", readStart Json.maximalRoom),
      ("restart", readRestart)]

def toJson : UserChoice → Json
  | .passage id => .object [("action", .string "passage"), ("target_id", Wire.toJson id)]
  | .start v => .object [("action", .string "start"), ("variant", Wire.toJson v)]
  | .restart => .object [("action", .string "restart")]

instance : Wire UserChoice := ⟨read, toJson⟩

end UserChoice

end VisualNovel
