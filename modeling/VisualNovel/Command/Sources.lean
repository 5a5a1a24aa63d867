/-
  VisualNovel.Command.Sources

  What the commands read, story files and asset manifests, and the errors that
  end a command.
-/

import VisualNovel.Assets
import VisualNovel.Scene.Basic
import VisualNovel.Store.Volume
import VisualNovel.Story.Twison

namespace VisualNovel.Command

/-- Why a command ends in failure. -/
inductive Failure
  | unreadableStory (path : String) (e : IoError)
  | invalidStory (path : String) (e : StoryError)
  | unreadableAssets (path : String) (e : IoError)
  | invalidAssets (path : String) (problem : Json.Problem)
  | noSaveDirectory (path : String) (e : IoError)
  | unreadableEndings (directory : String) (e : LedgerError)
  | unloadedEndings (e : PlayError)
  | unreadableInput (e : IoError)
  | play (e : PlayError)
  deriving DecidableEq, Repr

/-- The wording of a failure. -/
def Failure.message : Failure → String
  | .unreadableStory path e => "cannot read story '" ++ path ++ "': " ++ e.message
  | .invalidStory path e => "invalid story '" ++ path ++ "': " ++ e.message
  | .unreadableAssets path e => "cannot read assets '" ++ path ++ "': " ++ e.message
  | .invalidAssets path problem => "invalid assets '" ++ path ++ "': " ++ problem.message .text
  | .noSaveDirectory path e => "cannot create save directory '" ++ path ++ "': " ++ e.message
  | .unreadableEndings directory e => "cannot read endings in '" ++ directory ++ "': " ++ e.message
  | .unloadedEndings e => "failed to load endings: " ++ e.message
  | .unreadableInput e => e.message
  | .play e => e.message

variable {σ : Type} [Volume σ]

/-- Reads a story from a file. -/
def loadStory (volume : σ) (path : String) : Except Failure Story :=
  match Volume.readText volume path with
  | .error e => .error (.unreadableStory path e)
  | .ok text => (Story.ofText text).mapError (.invalidStory path)

/-- Reads an asset manifest from a file. -/
def loadManifest (volume : σ) (path : String) : Except Failure AssetManifest :=
  match Volume.readText volume path with
  | .error e => .error (.unreadableAssets path e)
  | .ok text => (AssetManifest.ofText text).mapError (.invalidAssets path)

/-- Reads an asset manifest, if one is named. -/
def loadAssets (volume : σ) : Option String → Except Failure (Option AssetManifest)
  | none => .ok none
  | some path => (loadManifest volume path).map some

end VisualNovel.Command
