/-
  VisualNovel.Proofs.Assets

  Asset manifests are read entry by entry. A cue is spelled by the name of its animation,
  or by an object that has a name and may turn the overlay effect on
  (`AnimationCue.Spells`). The directory that is read from a manifest has a cue for each
  name whose last entry spells one, unless the animation has the empty name; all else is
  left out, and what is no object is an empty directory (`AssetManifest.reads_entry_by_entry`).
-/

import VisualNovel.Assets
import VisualNovel.Proofs.Json.Records
import VisualNovel.Proofs.Json.Spelling

namespace VisualNovel

open Json (Document Valued)
open NameMap (find? last?)

/-! ## Cues -/

namespace AnimationCue

/-- The members of a cue. -/
def cueMembers : List String := ["animation", "secondary_effect"]

/-- The two forms of a directory entry. -/
inductive Spells : AnimationCue → Document → Prop
  /-- The name of an animation, without overlay effect. -/
  | name (animation : String) : Spells (plain animation) (.text animation)
  /-- An object. The last member of each name counts, and the effect is off unless there is a member for it. -/
  | record {cue : AnimationCue} {ms : List (String × Document)}
      (animation : last? "animation" ms = some (.text cue.animation))
      (secondaryEffect : (last? "secondary_effect" ms).getD (.bool false) = .bool cue.secondaryEffect) :
      Spells cue (.record ms)

variable {cue : AnimationCue} {room : Nat} {d e : Document} {j : Json} {ms : List (String × Document)}

theorem spells_text_iff {s : String} : cue.Spells (.text s) ↔ cue = plain s := by
  constructor
  · intro h
    cases h
    rfl
  · rintro rfl
    exact .name s

theorem spells_record_iff : cue.Spells (.record ms) ↔
    last? "animation" ms = some (.text cue.animation) ∧
      (last? "secondary_effect" ms).getD (.bool false) = .bool cue.secondaryEffect := by
  constructor
  · intro h
    generalize hd : Document.record ms = d at h
    cases h with
    | name animation => cases hd
    | record animation secondaryEffect =>
      obtain rfl := Json.named_injective (Document.object.inj hd).1
      exact ⟨animation, secondaryEffect⟩
  · rintro ⟨animation, secondaryEffect⟩
    exact .record animation secondaryEffect

/-- A document spells one cue only. -/
theorem Spells.unique {cue' : AnimationCue} (h : cue.Spells d) (h' : cue'.Spells d) : cue = cue' := by
  cases h with
  | name animation => exact (spells_text_iff.1 h').symm
  | record animation secondaryEffect =>
    obtain ⟨animation', secondaryEffect'⟩ := spells_record_iff.1 h'
    rw [animation] at animation'
    rw [secondaryEffect] at secondaryEffect'
    cases cue
    cases cue'
    cases animation'
    cases secondaryEffect'
    rfl

/-- A cue is read from a structure with a name and perhaps an effect. -/
theorem read_eq_ok_iff : read room d = .ok cue ↔
    1 < room ∧ d.IsRecord cueMembers ∧ d.field? "animation" 0 = some (.text cue.animation) ∧
      (d.field? "secondary_effect" 1).getD (.bool false) = .bool cue.secondaryEffect := by
  have hname : ∀ {field : Option Document} {s : String},
      Json.fieldValue Json.text (room - 1) none none field = some s ↔ field = some (.text s) :=
    Json.fieldValue_required_eq_some_iff Json.text_eq_ok_iff
  have heffect : ∀ {field : Option Document} {b : Bool},
      Json.fieldValue Json.flag (room - 1) (some false) none field = some b ↔
        field.getD (.bool false) = .bool b := by
    intro field b
    rw [Json.fieldValue_optional (Json.flag_eq_ok_iff.2 rfl), Json.toOption_eq_some_iff, Json.flag_eq_ok_iff]
  rw [read, Json.record_eq_ok_iff (by decide)]
  simp only [Json.Fields.map_pick_cons, Json.Fields.map_pick_nil, Option.bind_eq_some_iff, hname, heffect,
    Option.some.injEq]
  constructor
  · rintro ⟨hroom, hrecord, animation, ha, secondaryEffect, hs, rfl⟩
    exact ⟨hroom, hrecord, ha, hs⟩
  · rintro ⟨hroom, hrecord, ha, hs⟩
    exact ⟨hroom, hrecord, cue.animation, ha, cue.secondaryEffect, hs, rfl⟩

/-- The value of an object is read as the cue that the object spells. -/
theorem read_value_eq_ok_iff (h : Valued room (.record ms) e) :
    read Json.maximalRoom e = .ok cue ↔ cue.Spells (.record ms) := by
  have hsound := h.sound_right
  obtain ⟨-, -, ms', es, hms, rfl, hes⟩ := h.of_object
  obtain rfl := Json.named_injective hms
  -- The value is a map, so its only member of a name comes from the last one in the document.
  have hfield : ∀ name index, (Document.record es.entries).field? name index = es.get? name :=
    fun name _ => Json.member?_named name es.entries
  have hname : es.get? "animation" = some (.text cue.animation) ↔
      last? "animation" ms = some (.text cue.animation) := by
    have hrel := hes "animation"
    generalize last? "animation" ms = d, es.get? "animation" = e at hrel
    cases hrel with
    | none => simp
    | some hvalued =>
      rw [Option.some.injEq, Option.some.injEq]
      exact hvalued.eq_text_iff
  have heffect : (es.get? "secondary_effect").getD (.bool false) = .bool cue.secondaryEffect ↔
      (last? "secondary_effect" ms).getD (.bool false) = .bool cue.secondaryEffect := by
    have hrel := hes "secondary_effect"
    generalize last? "secondary_effect" ms = d, es.get? "secondary_effect" = e at hrel
    cases hrel with
    | none => rfl
    | some hvalued => exact hvalued.eq_bool_iff
  have hroom : 1 < Json.maximalRoom := by decide
  rw [read_eq_ok_iff, spells_record_iff, hfield, hfield, hname, heffect, and_iff_right hroom,
    and_iff_right (Json.isRecord_entries hsound)]

theorem kept_eq_some_iff {c : AnimationCue} :
    (if c.animation = "" then none else some c) = some cue ↔ cue = c ∧ cue.animation ≠ "" := by
  rw [Option.ite_none_left_eq_some, Option.some.injEq]
  constructor
  · rintro ⟨hname, rfl⟩
    exact ⟨rfl, hname⟩
  · rintro ⟨rfl, hname⟩
    exact ⟨hname, rfl⟩

/-- An entry has the cue that it spells, unless the name of the animation is empty. -/
theorem ofEntry?_eq_some_iff (h : Json.value room d = .ok j) :
    ofEntry? j = some cue ↔ cue.Spells d ∧ cue.animation ≠ "" := by
  have hvalued : Valued room d j.toDocument := ⟨j, h, rfl⟩
  cases hvalued.sound_left with
  | text s =>
    cases h
    rw [spells_text_iff]
    exact kept_eq_some_iff (c := plain s)
  | record _ _ =>
    obtain ⟨-, -, -, js, -, -, rfl⟩ := Json.value_object_eq_ok_iff.1 h
    rw [ ofEntry?, ← read_value_eq_ok_iff hvalued]
    cases read Json.maximalRoom (Json.object (Json.normalize js)).toDocument with
    | error e => simp
    | ok c =>
      rw [Except.ok.injEq, eq_comm (a := c)]
      exact kept_eq_some_iff
  | list _ _ =>
    obtain ⟨-, -, js, -, rfl⟩ := Json.value_array_eq_ok_iff.1 h
    exact iff_of_false (fun h => by cases h) (fun h => by cases h.1)
  | _ =>
    cases h
    exact iff_of_false (fun h => by cases h) (fun h => by cases h.1)

end AnimationCue

/-! ## Directories -/

namespace AnimationDirectory

variable {room : Nat} {d : Document} {j : Json} {name : String} {cue : AnimationCue}
  {dir dir' : AnimationDirectory} {member : Option Document} {es es' : List (String × Document)}

/-- A directory has the cue of each name whose last entry in some member spells one that has a name. -/
def IsReadFrom (dir : AnimationDirectory) (member : Option Document) : Prop :=
  ∀ name cue, dir.get? name = some cue ↔
    ∃ es, member = some (.record es) ∧ ∃ d, last? name es = some d ∧ cue.Spells d ∧ cue.animation ≠ ""

/-- A directory whose animations all have a name that is not empty. -/
def IsNamed (dir : AnimationDirectory) : Prop :=
  ∀ name cue, dir.get? name = some cue → cue.animation ≠ ""

theorem exists_record_iff {P : List (String × Document) → Prop} :
    (∃ es', some (Document.record es) = some (.record es') ∧ P es') ↔ P es := by
  constructor
  · rintro ⟨es', heq, hP⟩
    obtain rfl := Json.named_injective (Document.object.inj (Option.some.inj heq)).1
    exact hP
  · intro hP
    exact ⟨es, rfl, hP⟩

/-- The directory of a value is read from the document of that value. -/
theorem isReadFrom_ofJson (h : Json.value room d = .ok j) : (ofJson j).IsReadFrom (some d) := by
  intro name cue
  cases Json.sound_of_value h with
  | @record _ ms _ _ =>
    -- An entry that a later one replaces is not in the value, so only the last one is looked at.
    obtain ⟨-, -, ms', js, hms, hjs, rfl⟩ := Json.value_object_eq_ok_iff.1 h
    obtain rfl := Json.named_injective hms
    have hget : (ofJson (.object (Json.normalize js))).get? name = (last? name js).bind AnimationCue.ofEntry? := by
      rw [← NameMap.get?_ofList_eq_last?]
      exact NameMap.get?_ofList_filterMap AnimationCue.ofEntry? (NameMap.ofList js) name
    have hlast := NameMap.rel_last? (R := fun d j => Json.value (room - 1) d = .ok j) hjs name
    rw [hget]
    refine Iff.trans ?_ exists_record_iff.symm
    generalize last? name ms = o, last? name js = o' at hlast
    cases hlast with
    | none => simp
    | some hvalue => simp [AnimationCue.ofEntry?_eq_some_iff hvalue]
  | list _ _ =>
    obtain ⟨-, -, js, -, rfl⟩ := Json.value_array_eq_ok_iff.1 h
    exact iff_of_false (fun h => by cases h) (fun ⟨_, h, _⟩ => by cases h)
  | _ =>
    cases h
    exact iff_of_false (fun h => by cases h) (fun ⟨_, h, _⟩ => by cases h)

namespace IsReadFrom

theorem get?_eq_some_iff (h : dir.IsReadFrom (some (.record es))) :
    dir.get? name = some cue ↔ ∃ d, last? name es = some d ∧ cue.Spells d ∧ cue.animation ≠ "" := by
  rw [h]
  exact exists_record_iff

/-- Every animation that was read has a name. -/
theorem isNamed (h : dir.IsReadFrom member) : dir.IsNamed := by
  intro name cue hcue
  obtain ⟨-, -, -, -, -, hname⟩ := (h name cue).1 hcue
  exact hname

/-- What is no object is an empty directory. -/
theorem eq_empty (h : dir.IsReadFrom member) (hmember : ∀ es, member ≠ some (.record es)) : dir = .empty := by
  apply NameMap.ext_get?
  intro name
  rw [NameMap.get?_empty, Option.eq_none_iff_forall_ne_some]
  intro cue hcue
  obtain ⟨es, heq, -⟩ := (h name cue).1 hcue
  exact hmember es heq

/-- A name has the cue that its own entries give it. -/
theorem get?_eq (h : dir.IsReadFrom (some (.record es))) (h' : dir'.IsReadFrom (some (.record es')))
    (hentries : (es.filter fun e => e.1 = name) = es'.filter fun e => e.1 = name) :
    dir.get? name = dir'.get? name := by
  have hlast : last? name es = last? name es' := by
    rw [last?, last?, NameMap.find?_reverse, NameMap.find?_reverse, hentries]
  apply Option.ext
  intro cue
  rw [h.get?_eq_some_iff, h'.get?_eq_some_iff, hlast]

/-- A directory is read from its cues in any order and in any form. -/
theorem eq_of_writtenIn (h : dir.IsReadFrom (some (.record es))) (hnamed : dir'.IsNamed)
    (hwritten : dir'.WrittenIn AnimationCue.Spells es) : dir = dir' := by
  apply NameMap.ext_get?
  intro name
  apply Option.ext
  intro cue
  rw [h.get?_eq_some_iff]
  have hrel := hwritten.rel_last? name
  have hnamed := hnamed name cue
  generalize last? name es = o, dir'.get? name = o' at hrel hnamed
  cases hrel with
  | none => simp
  | @some d cue' hspells =>
    constructor
    · rintro ⟨d', heq, hcue, -⟩
      cases heq
      rw [hcue.unique hspells]
    · intro heq
      cases heq
      exact ⟨d, rfl, hspells, hnamed rfl⟩

end IsReadFrom

end AnimationDirectory

/-! ## Manifests -/

namespace AssetManifest

open AnimationCue (Spells)

/-- The members of a manifest. -/
def manifestMembers : List String := ["backgrounds", "animations"]

/-- A text that holds a manifest; nothing is said about the animations in it. -/
structure IsManifest (text : String) (ms : List (String × Document)) : Prop where
  ofText_eq : Document.ofText text.toList = (.record ms, none)
  /-- It keeps to the limits of nesting and numbers. -/
  sound : (Document.record ms).Sound Json.maximalRoom
  once : ¬ (Document.record ms).Repeats manifestMembers
  /-- The backgrounds are texts by name. -/
  backgrounds : ∀ d, find? "backgrounds" ms = some d →
    ∃ es : List (String × String), d = .record (es.map fun e => (e.1, .text e.2))

variable {text text' : String} {ms ms' : List (String × Document)} {m : AssetManifest} {room : Nat} {d : Document}

/-- The animations of a manifest are read from their member, if there is one. -/
theorem isReadFrom_of_read (h : read room d = .ok m) : m.animations.IsReadFrom (d.field? "animations" 1) := by
  rw [read, Json.record_eq_ok_iff (by decide)] at h
  obtain ⟨-, -, h⟩ := h
  simp only [Json.Fields.map_pick_cons, Json.Fields.map_pick_nil, Option.bind_eq_some_iff, Option.some.injEq] at h
  obtain ⟨backgrounds, -, j, hj, rfl⟩ := h
  cases hmember : d.field? "animations" 1 with
  | none =>
    rw [hmember] at hj
    cases hj
    intro name cue
    exact iff_of_false (fun h => by cases h) (fun ⟨_, h, _⟩ => by cases h)
  | some v =>
    rw [hmember] at hj
    exact AnimationDirectory.isReadFrom_ofJson (Json.toOption_eq_some_iff.1 hj)

theorem exists_map_text_eq_ok (hroom : 1 < room) (es : List (String × String)) :
    ∃ m, Json.map Json.text room (.record (es.map fun e => (e.1, .text e.2))) = .ok m := by
  refine ⟨_, Json.nameMap_eq_ok_iff.2 ⟨hroom, _, es, rfl, ?_, rfl⟩⟩
  rw [List.forall₂_map_left_iff]
  exact List.forall₂_same.2 fun e _ => ⟨rfl, rfl⟩

/-- A manifest can be read, whatever its animations are. -/
theorem exists_ofText_eq_ok (h : IsManifest text ms) : ∃ m, ofText text = .ok m := by
  obtain ⟨hroom, hms⟩ := Json.sound_record_iff.1 h.sound
  have hrecord : (Document.record ms).IsRecord manifestMembers :=
    .object (Json.wellFormed_of_not_repeats hms h.once)
  have hfield : ∀ name index, (Document.record ms).field? name index = find? name ms :=
    fun name _ => Json.member?_named name ms
  obtain ⟨backgrounds, hbackgrounds⟩ : ∃ b, Json.fieldValue (Json.map Json.text) (Json.maximalRoom - 1)
      (some .empty) none (find? "backgrounds" ms) = some b := by
    cases hmember : find? "backgrounds" ms with
    | none => exact ⟨_, rfl⟩
    | some d =>
      obtain ⟨es, rfl⟩ := h.backgrounds d hmember
      obtain ⟨b, hb⟩ := exists_map_text_eq_ok (by decide : 1 < Json.maximalRoom - 1) es
      exact ⟨b, Json.toOption_eq_some_iff.2 hb⟩
  obtain ⟨j, hj⟩ : ∃ j, Json.fieldValue Json.value (Json.maximalRoom - 1)
      (some .null) none (find? "animations" ms) = some j := by
    cases hmember : find? "animations" ms with
    | none => exact ⟨_, rfl⟩
    | some d =>
      obtain ⟨j, hj⟩ := Json.exists_value_iff.2 (hms _ (NameMap.mem_of_find?_eq_some hmember))
      exact ⟨j, Json.toOption_eq_some_iff.2 hj⟩
  refine ⟨⟨backgrounds, .ofJson j⟩, ?_⟩
  rw [ofText, Json.readText_eq h.ofText_eq, read, Json.record_eq_ok_iff (by decide)]
  refine ⟨hroom, hrecord, ?_⟩
  simp only [Json.Fields.map_pick_cons, Json.Fields.map_pick_nil, hfield, hbackgrounds, hj, Option.bind_some]

/-- The animations of a manifest are those of the last entries in the member for them. -/
theorem IsManifest.isReadFrom (h : IsManifest text ms) (hread : ofText text = .ok m) :
    m.animations.IsReadFrom (find? "animations" ms) := by
  rw [ofText, Json.readText_eq h.ofText_eq] at hread
  rw [← Json.member?_named]
  exact isReadFrom_of_read hread

/--
**Manifests are read entry by entry.** A manifest can be read, whatever is in the member for its
animations: the directory is empty if that is no object, and else it has the cues of those names
whose last entry spells one with a name. So each cue that was read has a name; a directory of
named cues is read from all ways to write it; and a name has the same cue in all manifests with
the same entries for that name.
-/
theorem reads_entry_by_entry (h : IsManifest text ms) :
    ∃ m, ofText text = .ok m ∧
      ((∀ es, find? "animations" ms ≠ some (.record es)) → m.animations = .empty) ∧
      m.animations.IsNamed ∧
      ∀ es, find? "animations" ms = some (.record es) →
        (∀ name cue, m.animations.get? name = some cue ↔
          ∃ d, last? name es = some d ∧ cue.Spells d ∧ cue.animation ≠ "") ∧
        (∀ dir : AnimationDirectory, dir.IsNamed → dir.WrittenIn Spells es → m.animations = dir) ∧
        ∀ text' ms' es' m', IsManifest text' ms' → find? "animations" ms' = some (.record es') →
          ofText text' = .ok m' → ∀ name, (es.filter fun e => e.1 = name) = (es'.filter fun e => e.1 = name) →
            m.animations.get? name = m'.animations.get? name := by
  obtain ⟨m, hm⟩ := exists_ofText_eq_ok h
  have hread := h.isReadFrom hm
  refine ⟨m, hm, hread.eq_empty, hread.isNamed, fun es hes => ?_⟩
  rw [hes] at hread
  refine ⟨fun name cue => hread.get?_eq_some_iff, fun dir => hread.eq_of_writtenIn, ?_⟩
  intro text' ms' es' m' h' hes' hm' name hentries
  have hread' := h'.isReadFrom hm'
  rw [hes'] at hread'
  exact hread.get?_eq hread' hentries

/-- A manifest with entries of all kinds, two of them for the cave. -/
def grotto : Json :=
  .object [("backgrounds", .object [("default", .string "bg.png")]), ("animations", .object [
    ("Hall", .string "talk"), ("Cave", .string "sit"), ("Broken", .natural 42), ("Empty", .string ""),
    ("Attic", .object [("secondary_effect", .bool true)]), ("Tower", .array [.string "wave"]),
    ("Cave", .object [("zoom", .null), ("secondary_effect", .bool true), ("animation", .string "shiver")])])]

/-- Two names have cues, and the cave has that of its last entry. -/
theorem reads_entry_by_entry_grotto :
    let text := String.ofList (Json.compact grotto)
    let ms : List (String × Document) := [("backgrounds", .record [("default", .text "bg.png")]),
      ("animations", .record [("Hall", .text "talk"), ("Cave", .text "sit"), ("Broken", .number (.natural 42)),
        ("Empty", .text ""), ("Attic", .record [("secondary_effect", .bool true)]), ("Tower", .list [.text "wave"]),
        ("Cave", .record [("zoom", .null), ("secondary_effect", .bool true), ("animation", .text "shiver")])])]
    IsManifest text ms ∧ ∃ m, ofText text = .ok m ∧ m.animations.IsNamed ∧
      m.animations = .ofList [("Cave", ⟨"shiver", true⟩), ("Hall", .plain "talk")] := by
  intro text ms
  have hrecord : grotto.toDocument.IsRecord manifestMembers :=
    .object (Json.wellFormed_of_sublist (by decide) (by decide))
  have hmanifest : IsManifest text ms :=
    { ofText_eq := by
        rw [String.toList_ofList]
        apply Json.ofText_compact
        simp only [grotto, Json.IsPlain, Json.ArePlain, Json.HavePlain, and_true, true_and]
        decide
      sound := Json.exists_value_iff.1 ⟨_, rfl⟩
      once := Json.not_repeats_of_isRecord hrecord
      backgrounds := by
        intro d hd
        cases hd
        exact ⟨[("default", "bg.png")], rfl⟩ }
  have hanimations : (ofText text).toOption.map (·.animations) =
      some (.ofList [("Cave", ⟨"shiver", true⟩), ("Hall", .plain "talk")]) := by
    rw [ofText, Json.readText_eq hmanifest.ofText_eq]
    decide +kernel
  obtain ⟨m, hm, -, hnamed, -⟩ := reads_entry_by_entry hmanifest
  rw [hm] at hanimations
  exact ⟨hmanifest, m, hm, hnamed, Option.some.inj hanimations⟩

end AssetManifest

end VisualNovel
