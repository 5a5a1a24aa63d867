/-
  VisualNovel.Story.Basic

  Stories: passages numbered from 1 without gaps, two starts, and links that all
  lead to a passage. `Story.build` checks these conditions in a fixed order and
  names the first kind of defect; a `Story` that exists satisfies them by type.
-/

import VisualNovel.Json.Reader
import VisualNovel.Story.Outcome

namespace VisualNovel

/-- A link whose target does not exist. -/
structure DanglingLink where
  passage : PassageId
  label : String
  targetId : PassageId
  deriving DecidableEq, Repr

/-- Why there is no such story or passage. -/
inductive StoryError
  | notFound (id : PassageId)
  | dangling (links : List DanglingLink)
  | notDense (expected found : PassageId)
  | empty
  | invalidStart (id : PassageId)
  | invalidId (text : String)
  | malformed (source : Json.Source) (problem : Json.Problem)
  deriving DecidableEq, Repr

/-- The wording of a dangling link. -/
def DanglingLink.text (l : DanglingLink) : String :=
  "passage " ++ toString l.passage ++ " -> " ++ toString l.targetId ++ " (\"" ++ l.label ++ "\")"

/-- The wording of an error. -/
def StoryError.message : StoryError → String
  | .notFound id => "passage not found: " ++ toString id
  | .dangling links => "dangling links: " ++ ", ".intercalate (links.map DanglingLink.text)
  | .notDense expected found =>
    "passage ids must be dense from 1: expected " ++ toString expected ++ ", found " ++ toString found
  | .empty => "story has no passages"
  | .invalidStart id => "start passage " ++ toString id ++ " does not exist"
  | .invalidId text => "invalid passage id: \"" ++ text ++ "\""
  | .malformed source problem => "malformed story data: " ++ problem.message source

/-- Whether an id is one of the numbers from 1 to `n`. -/
abbrev IsIdBelow (n : Nat) (id : PassageId) : Prop :=
  1 ≤ id.toNat ∧ id.toNat ≤ n

/-- A story that can be played. -/
structure Story where
  passages : List Passage
  start : PassageId
  altStart : PassageId
  /-- Passages stand in the order of their numbers, from 1 on. -/
  isDense : passages.map (·.id.toNat) = List.range' 1 passages.length
  start_isId : IsIdBelow passages.length start
  altStart_isId : IsIdBelow passages.length altStart
  link_isId : ∀ p ∈ passages, ∀ l ∈ p.links, IsIdBelow passages.length l.targetId

namespace Story

/-! ## Building -/

/-- Puts a passage in front of the first one with an id that is not smaller. -/
def insertById (p : Passage) : List Passage → List Passage
  | [] => [p]
  | q :: qs => if p.id ≤ q.id then p :: q :: qs else q :: insertById p qs

/-- Passages in the order of their ids. -/
def sortById (ps : List Passage) : List Passage :=
  ps.foldr insertById []

/-- The first place where ids do not count up from `k`: the id expected and the one found. -/
def firstGap (k : Nat) : List Passage → Option (PassageId × PassageId)
  | [] => none
  | p :: ps => if p.id.toNat = k then firstGap (k + 1) ps else some (UInt32.ofNat k, p.id)

theorem firstGap_eq_none_iff {k : Nat} {ps : List Passage} :
    firstGap k ps = none ↔ ps.map (·.id.toNat) = List.range' k ps.length := by
  induction ps generalizing k with
  | nil => simp [firstGap]
  | cons p ps ih =>
    simp only [firstGap, List.map_cons, List.length_cons, List.range'_succ, List.cons.injEq]
    split
    · next h => simp [h, ih]
    · next h => simp [h]

/-- The links of some passages that lead out of the numbers from 1 to `n`. -/
def danglingLinks (n : Nat) (ps : List Passage) : List DanglingLink :=
  ps.flatMap fun p =>
    (p.links.filter fun l => ¬ IsIdBelow n l.targetId).map fun l => ⟨p.id, l.label, l.targetId⟩

theorem danglingLinks_eq_nil_iff {n : Nat} {ps : List Passage} :
    danglingLinks n ps = [] ↔ ∀ p ∈ ps, ∀ l ∈ p.links, IsIdBelow n l.targetId := by
  simp [danglingLinks, List.filter_eq_nil_iff, IsIdBelow, Nat.one_le_iff_ne_zero]

/-- Builds a story, or names the first kind of defect. -/
def build (ps : List Passage) (start altStart : PassageId) : Except StoryError Story :=
  let sorted := sortById ps
  match hgap : firstGap 1 sorted with
  | some (expected, found) => .error (.notDense expected found)
  | none =>
    -- Without passages there is no gap either, so this case is met only here.
    if ps = [] then .error .empty
    else if hs : IsIdBelow sorted.length start then
      if ha : IsIdBelow sorted.length altStart then
        if hd : danglingLinks sorted.length sorted = [] then
          .ok ⟨sorted, start, altStart, firstGap_eq_none_iff.1 hgap, hs, ha,
            danglingLinks_eq_nil_iff.1 hd⟩
        else .error (.dangling (danglingLinks sorted.length sorted))
      else .error (.invalidStart altStart)
    else .error (.invalidStart start)

/-! ## Looking up -/

/-- The passage with an id. -/
def get? (s : Story) (id : PassageId) : Option Passage :=
  if id = 0 then none else s.passages[id.toNat - 1]?

/-- The passage with an id, or the error that there is none. -/
def get (s : Story) (id : PassageId) : Except StoryError Passage :=
  match s.get? id with
  | some p => .ok p
  | none => .error (.notFound id)

/-- The last passage with a name. -/
def findByName? (s : Story) (name : String) : Option Passage :=
  (s.passages.filter fun p => p.name = name).getLast?

/-- The id of a start. -/
def startOf (s : Story) : StartVariant → PassageId
  | .default => s.start
  | .alt => s.altStart

/-- Number of passages. -/
def size (s : Story) : Nat :=
  s.passages.length

/-- The passages that end the play, in the order of their ids. -/
def endings (s : Story) : List Passage :=
  s.passages.filter Passage.isEnding

end Story

end VisualNovel
