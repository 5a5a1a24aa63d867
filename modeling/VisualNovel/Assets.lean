/-
  VisualNovel.Assets

  Asset manifests: which backgrounds exist, and which passages have a character
  animation of their own. The player only picks names from a manifest. An entry
  of the animation directory that is malformed is left out without harm to the
  others.
-/

import VisualNovel.Json.Reader

namespace VisualNovel

/-- A character animation to play. -/
structure AnimationCue where
  animation : String
  /-- Whether the overlay effect is on. -/
  secondaryEffect : Bool
  deriving DecidableEq, Repr

namespace AnimationCue

/-- An animation without overlay effect. -/
def plain (animation : String) : AnimationCue :=
  ⟨animation, false⟩

def read : Json.Reader AnimationCue :=
  Json.record "struct AnimationCue"
    (.required "animation" Json.text <| .optional "secondary_effect" Json.flag false .nil)
    fun (animation, secondaryEffect, ()) => { animation, secondaryEffect }

/-- The cue of a directory entry: the name of an animation, or an object with a name. -/
def ofEntry? : Json → Option AnimationCue
  | .string animation => if animation = "" then none else some (plain animation)
  | .object members =>
    match read Json.maximalRoom (Json.object members).toDocument with
    | .ok cue => if cue.animation = "" then none else some cue
    | .error _ => none
  | _ => none

end AnimationCue

/-- Animations by passage name. -/
abbrev AnimationDirectory := NameMap AnimationCue

/-- The well-formed entries of a directory; anything but an object has none. -/
def AnimationDirectory.ofJson : Json → AnimationDirectory
  | .object members =>
    NameMap.ofList (members.filterMap fun (name, entry) =>
      (AnimationCue.ofEntry? entry).map fun cue => (name, cue))
  | _ => .empty

/-- What there is to show. -/
structure AssetManifest where
  /-- Locations by background name. -/
  backgrounds : NameMap String
  animations : AnimationDirectory
  deriving DecidableEq

namespace AssetManifest

/-- The manifest without assets. -/
def empty : AssetManifest :=
  ⟨.empty, .empty⟩

instance : Inhabited AssetManifest := ⟨empty⟩

def read : Json.Reader AssetManifest :=
  Json.record "struct RawManifest"
    (.optional "backgrounds" (Json.map Json.text) .empty <| .optional "animations" Json.value .null .nil)
    fun (backgrounds, animations, ()) => ⟨backgrounds, .ofJson animations⟩

/-- Reads a manifest from a text. -/
def ofText (s : String) : Except Json.Problem AssetManifest :=
  Json.readText read s

/-- Whether a background exists. -/
def hasBackground (m : AssetManifest) (name : String) : Bool :=
  m.backgrounds.contains name

/-- The first of some names that is a background, or else the fallback. -/
def background (m : AssetManifest) (candidates : List String) (fallback : String) : String :=
  (candidates.find? m.hasBackground).getD fallback

/-- A passage's own animation, or else the plain default. -/
def animation (m : AssetManifest) (passageName default : String) : AnimationCue :=
  (m.animations.get? passageName).getD (.plain default)

end AssetManifest

end VisualNovel
