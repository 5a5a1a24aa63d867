/-
  VisualNovel.Story.Twison

  Stories in the Twison form of JSON: `startnode`, an optional `altstartnode`
  that falls back to it, and `passages` with `pid`, `name`, `text`, `tags` and
  `links`. Ids are numbers or texts of numbers. A draft is read first; then its
  ids are resolved in a fixed order (starts, then for each passage its links
  before itself), and the story is built.
-/

import VisualNovel.Story.Basic

namespace VisualNovel.Twison

open Json (Reader Problem)

/-- An id as it is written. -/
inductive DraftId
  | number (n : UInt32)
  | text (s : String)
  deriving DecidableEq, Repr

/-- A link as it is written. -/
structure DraftLink where
  name : String
  link : String
  pid : DraftId
  deriving DecidableEq, Repr

/-- A passage as it is written. -/
structure DraftPassage where
  pid : DraftId
  name : String
  text : String
  tags : List String
  links : List DraftLink
  deriving DecidableEq, Repr

/-- A story as it is written. -/
structure Draft where
  startnode : DraftId
  altstartnode : Option DraftId
  passages : List DraftPassage
  deriving DecidableEq, Repr

/-! ## Reading a draft -/

def readId : Reader DraftId :=
  Json.untagged "RawPid"
    [fun room d => (Json.word room d).map .number, fun room d => (Json.text room d).map .text]

def readLink : Reader DraftLink :=
  Json.record "struct RawLink"
    (.required "name" Json.text <| .required "link" Json.text <| .required "pid" readId .nil)
    fun (name, link, pid, ()) => { name, link, pid }

def readPassage : Reader DraftPassage :=
  Json.record "struct RawPassage"
    (.required "pid" readId <| .required "name" Json.text <| .optional "text" Json.text "" <|
      .optional "tags" (Json.list Json.text) [] <| .optional "links" (Json.list readLink) [] .nil)
    fun (pid, name, text, tags, links, ()) => { pid, name, text, tags, links }

def readDraft : Reader Draft :=
  Json.record "struct RawStory"
    (.required "startnode" readId <| .optional "altstartnode" (Json.option readId) none <|
      .required "passages" (Json.list readPassage) .nil)
    fun (startnode, altstartnode, passages, ()) => { startnode, altstartnode, passages }

/-! ## From a draft to a story -/

/-- The id that is meant: a text is trimmed and read as a numeral of 32 bits. -/
def DraftId.resolve : DraftId → Except StoryError PassageId
  | .number n => .ok n
  | .text s =>
    match Text.Numeral.read? UInt32.size (Text.trim s.toList) with
    | some n => .ok (UInt32.ofNat n)
    | none => .error (.invalidId s)

def DraftLink.resolve (l : DraftLink) : Except StoryError Link :=
  l.pid.resolve.map fun id => { label := l.name, targetName := l.link, targetId := id }

/-- Resolves the elements of a list in order, up to the first error. -/
def resolveAll (f : α → Except StoryError β) : List α → Except StoryError (List β)
  | [] => .ok []
  | a :: as => (f a).bind fun b => (resolveAll f as).map (b :: ·)

def DraftPassage.resolve (p : DraftPassage) : Except StoryError Passage :=
  (resolveAll DraftLink.resolve p.links).bind fun links =>
    p.pid.resolve.map fun id =>
      { id, name := p.name, text := p.text, tags := NameSet.ofNames p.tags, links }

/-- The id of the alternate start; that of the start if there is none. -/
def Draft.resolveAltStart (d : Draft) (start : PassageId) : Except StoryError PassageId :=
  match d.altstartnode with
  | some pid => pid.resolve
  | none => .ok start

/-- The story of a draft. -/
def Draft.build (d : Draft) : Except StoryError Story :=
  d.startnode.resolve.bind fun start =>
    (d.resolveAltStart start).bind fun altStart =>
      (resolveAll DraftPassage.resolve d.passages).bind fun passages =>
        Story.build passages start altStart

end VisualNovel.Twison

namespace VisualNovel.Story

/-- Reads a story from a text. -/
def ofText (s : String) : Except StoryError Story :=
  match Json.readText Twison.readDraft s with
  | .ok draft => draft.build
  | .error problem => .error (.malformed .text problem)

/-- Reads a story from a JSON value. -/
def ofJson (j : Json) : Except StoryError Story :=
  match Twison.readDraft Json.maximalRoom j.toDocument with
  | .ok draft => draft.build
  | .error problem => .error (.malformed .value problem)

end VisualNovel.Story
