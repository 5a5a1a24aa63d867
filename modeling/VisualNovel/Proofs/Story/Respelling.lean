/-
  VisualNovel.Proofs.Story.Respelling

  A story does not depend on how it is spelled. Two documents that spell the same
  story (`SameStory`) may write its ids as numbers or as texts of numbers, leave out
  what is empty and the alternate start that is the start, order and repeat tags as
  they like, and order members and add unknown ones; if every id is well formed,
  passages may come in any order, too. They lead to one story or to one error,
  unless both are malformed (`ofText_eq_of_sameStory`).

  The proofs follow what the parts of a document come to once their ids are
  resolved (`idOf`, `linkOf`, `passageOf`, `storyOf`); nothing else about a part
  matters for the whole.
-/

import VisualNovel.Proofs.Json.Reading
import VisualNovel.Proofs.Json.Spelling
import VisualNovel.Proofs.NameMap
import VisualNovel.Proofs.Story.Building
import VisualNovel.Proofs.Text.Numeral
import VisualNovel.Story.Twison

namespace VisualNovel

open Json (Document Reader Problem)

namespace Twison

/-! ## Spellings -/

/-- An id as a number, or as a text that trims to its numeral behind at most one plus sign and zeros. -/
inductive WritesId (id : PassageId) : Document → Prop
  | number : WritesId id (.number (.natural id.toNat))
  | text (s : String) (sign : List Char) (zeros : Nat) (hsign : sign = [] ∨ sign = ['+'])
      (htrim : Text.trim s.toList = sign ++ (List.replicate zeros '0' ++ Text.Numeral.digits id.toNat)) :
      WritesId id (.text s)

/-- Lists and objects: neither a text nor an id, whatever is in them. -/
def IsCompound : Document → Prop
  | .array _ _ => True
  | .object _ _ => True
  | _ => False

/-- Objects: no list, whatever is in them. -/
def IsObject : Document → Prop
  | .object _ _ => True
  | _ => False

/-- Where a text is expected. -/
def SameText (d d' : Document) : Prop :=
  d = d' ∨ IsCompound d ∧ IsCompound d'

/-- Where an id is expected. -/
def SameId (d d' : Document) : Prop :=
  SameText d d' ∨ ∃ id, WritesId id d ∧ WritesId id d'

/-- Where a list is expected. -/
def SameList (R : List Document → List Document → Prop) (d d' : Document) : Prop :=
  d = d' ∨ (IsObject d ∧ IsObject d') ∨ ∃ ds ds', d = .list ds ∧ d' = .list ds' ∧ R ds ds'

/-- The same tags, in any order and any number of times. -/
def SameTags (ds ds' : List Document) : Prop :=
  (∀ d ∈ ds, ∃ d' ∈ ds', SameText d d') ∧ ∀ d' ∈ ds', ∃ d ∈ ds, SameText d d'

/-- The members of a link. -/
def linkMembers : List String := ["name", "link", "pid"]

/-- The members of a passage. -/
def passageMembers : List String := ["pid", "name", "text", "tags", "links"]

/-- The members of a story. -/
def storyMembers : List String := ["startnode", "altstartnode", "passages"]

/-- Where a link is expected. -/
inductive SameLink (d d' : Document) : Prop
  | same (h : d = d')
  | record (hd : d.IsRecord linkMembers) (hd' : d'.IsRecord linkMembers)
      (name : Option.Rel SameText (d.field? "name" 0) (d'.field? "name" 0))
      (link : Option.Rel SameText (d.field? "link" 1) (d'.field? "link" 1))
      (pid : Option.Rel SameId (d.field? "pid" 2) (d'.field? "pid" 2))

/-- The text of a passage, empty if there is no such member. -/
def textIn (d : Document) : Document :=
  (d.field? "text" 2).getD (.text "")

/-- The tags of a passage, none if there is no such member. -/
def tagsIn (d : Document) : Document :=
  (d.field? "tags" 3).getD (.list [])

/-- The links of a passage, none if there is no such member. -/
def linksIn (d : Document) : Document :=
  (d.field? "links" 4).getD (.list [])

/-- Where a passage is expected. -/
inductive SamePassage (d d' : Document) : Prop
  | same (h : d = d')
  | record (hd : d.IsRecord passageMembers) (hd' : d'.IsRecord passageMembers)
      (pid : Option.Rel SameId (d.field? "pid" 0) (d'.field? "pid" 0))
      (name : Option.Rel SameText (d.field? "name" 1) (d'.field? "name" 1))
      (text : SameText (textIn d) (textIn d'))
      (tags : SameList SameTags (tagsIn d) (tagsIn d'))
      (links : SameList (List.Forall₂ SameLink) (linksIn d) (linksIn d'))

/-- The ids of a passage and of its links are well formed, as far as they are there. -/
structure HasIds (d : Document) : Prop where
  pid : ∀ i, d.field? "pid" 0 = some i → ∃ id, WritesId id i
  links : ∀ ds, linksIn d = .list ds → ∀ l ∈ ds, ∀ i, l.field? "pid" 2 = some i → ∃ id, WritesId id i

/-- The same passages, in any order if all their ids are well formed. -/
def SamePassages (ds ds' : List Document) : Prop :=
  List.Forall₂ SamePassage ds ds' ∨
    (∀ d ∈ ds, HasIds d) ∧ ∃ es, ds.Perm es ∧ List.Forall₂ SamePassage es ds'

/-- The alternate start; the start, if there is none. -/
def altStartIn (d : Document) : Option Document :=
  match d.field? "altstartnode" 1 with
  | none => d.field? "startnode" 0
  | some .null => d.field? "startnode" 0
  | some i => some i

/-- Where a story is expected. -/
inductive SameStory (d d' : Document) : Prop
  | same (h : d = d')
  | record (hd : d.IsRecord storyMembers) (hd' : d'.IsRecord storyMembers)
      (startnode : Option.Rel SameId (d.field? "startnode" 0) (d'.field? "startnode" 0))
      (altstartnode : Option.Rel SameId (altStartIn d) (altStartIn d'))
      (passages : Option.Rel (SameList SamePassages) (d.field? "passages" 2) (d'.field? "passages" 2))

/-! ## What the parts of a document come to -/

/-- What an id comes to, if it can be read. -/
def idOf (room : Nat) (d : Document) : Option (Except StoryError PassageId) :=
  (readId room d).toOption.map DraftId.resolve

/-- A text, if it can be read. -/
def textOf (room : Nat) (d : Document) : Option String :=
  (Json.text room d).toOption

/-- What a link comes to, if it can be read. -/
def linkOf (room : Nat) (d : Document) : Option (Except StoryError Link) :=
  (readLink room d).toOption.map DraftLink.resolve

/-- What a list of links comes to, if it can be read. -/
def linksOf (room : Nat) (d : Document) : Option (Except StoryError (List Link)) :=
  (Json.list readLink room d).toOption.map (resolveAll DraftLink.resolve)

/-- The set of tags in a list, if it can be read. -/
def tagsOf (room : Nat) (d : Document) : Option NameSet :=
  (Json.list Json.text room d).toOption.map NameSet.ofNames

/-- What a passage comes to, if it can be read. -/
def passageOf (room : Nat) (d : Document) : Option (Except StoryError Passage) :=
  (readPassage room d).toOption.map DraftPassage.resolve

/-- What a list of passages comes to, if it can be read. -/
def passagesOf (room : Nat) (d : Document) : Option (Except StoryError (List Passage)) :=
  (Json.list readPassage room d).toOption.map (resolveAll DraftPassage.resolve)

/-- What a story comes to, if it can be read. -/
def storyOf (room : Nat) (d : Document) : Option (Except StoryError Story) :=
  (readDraft room d).toOption.map Draft.build

variable {room : Nat} {d d' : Document}

/-! ### Texts and ids -/

theorem textOf_eq (h : SameText d d') (room : Nat) : textOf room d = textOf room d' := by
  rcases h with rfl | ⟨hd, hd'⟩
  · rfl
  · have hnone : ∀ e, IsCompound e → textOf room e = none := by
      intro e he
      cases e <;> first | rfl | cases he
    rw [hnone d hd, hnone d' hd']

theorem idOf_of_isCompound (h : IsCompound d) (room : Nat) : idOf room d = none := by
  cases d with
  | array ds tail =>
    rw [idOf, readId, Json.untagged]
    cases Json.value room (.array ds tail) <;> rfl
  | object ms tail =>
    rw [idOf, readId, Json.untagged]
    cases Json.value room (.object ms tail) <;> rfl
  | _ => cases h

theorem idOf_of_writesId {id : PassageId} (h : WritesId id d) (room : Nat) : idOf room d = some (.ok id) := by
  cases h with
  | number =>
    simp only [idOf, readId, Json.untagged, Json.value, Except.bind, Json.firstOf, List.findSome?_cons,
      Json.word_natural]
    rfl
  | text s sign zeros hsign htrim =>
    have htext : readId room (.text s) = .ok (.text s) := rfl
    have hread : Text.Numeral.read? UInt32.size (Text.trim s.toList) = some id.toNat := by
      rw [htrim]
      exact Text.Numeral.read?_signed hsign zeros id.toNat_lt_size
    simp only [idOf, htext, Json.toOption_ok, Option.map_some, DraftId.resolve, hread, UInt32.ofNat_toNat]

theorem idOf_eq (h : SameId d d') (room : Nat) : idOf room d = idOf room d' := by
  rcases h with (rfl | ⟨hd, hd'⟩) | ⟨id, hd, hd'⟩
  · rfl
  · rw [idOf_of_isCompound hd, idOf_of_isCompound hd']
  · rw [idOf_of_writesId hd, idOf_of_writesId hd']

theorem bind_textOf_eq {o o' : Option Document} (h : Option.Rel SameText o o') (room : Nat) :
    o.bind (textOf room) = o'.bind (textOf room) := by
  cases h with
  | none => rfl
  | some h => exact textOf_eq h room

theorem bind_idOf_eq {o o' : Option Document} (h : Option.Rel SameId o o') (room : Nat) :
    o.bind (idOf room) = o'.bind (idOf room) := by
  cases h with
  | none => rfl
  | some h => exact idOf_eq h room

/-! ### Lists -/

section Lists

variable {α β γ : Type} {r : Reader α} {f : α → Except StoryError β} {g : List α → γ}

/-- A list that has to be resolved as a whole comes to what its items come to. -/
theorem toOption_items_cons (room : Nat) (d : Document) (ds : List Document) :
    (Json.items r room (d :: ds)).toOption.map (resolveAll f) =
      ((r room d).toOption.map f).bind fun first =>
        ((Json.items r room ds).toOption.map (resolveAll f)).map fun rest =>
          first.bind fun b => rest.map (b :: ·) := by
  rw [Json.items, Json.toOption_bind]
  cases (r room d).toOption with
  | none => rfl
  | some a =>
    rw [Option.bind_some, Json.toOption_map, Option.map_some, Option.bind_some, Option.map_map, Option.map_map]
    rfl

theorem resolveAll_items_eq {ds ds' : List Document}
    (h : List.Forall₂ (fun d d' => (r room d).toOption.map f = (r room d').toOption.map f) ds ds') :
    (Json.items r room ds).toOption.map (resolveAll f) =
      (Json.items r room ds').toOption.map (resolveAll f) := by
  induction h with
  | nil => rfl
  | cons hd _ ih => rw [toOption_items_cons, toOption_items_cons, hd, ih]

/-- Lists come to related things if their items do; what is no list comes to nothing. -/
theorem list_rel {P : Option γ → Option γ → Prop} {R : List Document → List Document → Prop}
    (hrefl : ∀ x, P x x)
    (hitems : ∀ ds ds', R ds ds' → P ((Json.items r (room - 1) ds).toOption.map g)
      ((Json.items r (room - 1) ds').toOption.map g))
    (h : SameList R d d') : P ((Json.list r room d).toOption.map g) ((Json.list r room d').toOption.map g) := by
  rcases h with rfl | ⟨hd, hd'⟩ | ⟨ds, ds', rfl, rfl, hR⟩
  · exact hrefl _
  · have hnone : ∀ e, IsObject e → (Json.list r room e).toOption = none := by
      intro e he
      cases e <;> first | rfl | cases he
    rw [hnone d hd, hnone d' hd']
    exact hrefl _
  · have hlist : ∀ es, (Json.list r room (.list es)).toOption.map g =
        if room ≤ 1 then none else (Json.items r (room - 1) es).toOption.map g := by
      intro es
      rw [Json.list, Json.enter]
      split
      · rfl
      · rw [Json.toOption_bind]
        cases (Json.items r (room - 1) es).toOption <;> rfl
    rw [hlist, hlist]
    split
    · exact hrefl _
    · exact hitems ds ds' hR

end Lists

/-! ### Links -/

theorem linkOf_of_isRecord (hd : d.IsRecord linkMembers) (room : Nat) :
    linkOf room d =
      if room ≤ 1 then none else
        ((d.field? "name" 0).bind (textOf (room - 1))).bind fun name =>
          ((d.field? "link" 1).bind (textOf (room - 1))).bind fun link =>
            ((d.field? "pid" 2).bind (idOf (room - 1))).map fun pid =>
              pid.map fun id => { label := name, targetName := link, targetId := id } := by
  rw [linkOf, readLink, Json.toOption_record ?_ ?_ hd]
  · split
    · rfl
    · rw [Option.map_map]
      simp only [Json.Fields.map_pick_cons, Json.Fields.map_pick_nil, Json.fieldValue_required]
      simp only [idOf, textOf, Option.map_eq_bind, Option.bind_assoc, Option.bind_some, Function.comp_apply]
      rfl
  · rfl
  · decide

theorem linkOf_eq (h : SameLink d d') (room : Nat) : linkOf room d = linkOf room d' := by
  cases h with
  | same h => rw [h]
  | record hd hd' name link pid =>
    rw [linkOf_of_isRecord hd, linkOf_of_isRecord hd', bind_textOf_eq name, bind_textOf_eq link,
      bind_idOf_eq pid]

theorem linksOf_eq (h : SameList (List.Forall₂ SameLink) d d') (room : Nat) : linksOf room d = linksOf room d' := by
  apply list_rel (P := Eq) (fun _ => rfl) _ h
  intro ds ds' hds
  exact resolveAll_items_eq (hds.imp fun _ _ hd => linkOf_eq hd _)

/-! ### Passages -/

theorem text_eq_ok_iff (h : SameText d d') {tag : String} :
    Json.text room d = .ok tag ↔ Json.text room d' = .ok tag := by
  rw [← Json.toOption_eq_some_iff, ← Json.toOption_eq_some_iff]
  exact Eq.congr_left (textOf_eq h room)

theorem exists_text_iff {ds ds' : List Document} (h : SameTags ds ds') {tag : String} :
    (∃ d ∈ ds, Json.text room d = .ok tag) ↔ ∃ d ∈ ds', Json.text room d = .ok tag := by
  constructor
  · rintro ⟨d, hd, htag⟩
    obtain ⟨d', hd', hsame⟩ := h.1 d hd
    exact ⟨d', hd', (text_eq_ok_iff hsame).1 htag⟩
  · rintro ⟨d', hd', htag⟩
    obtain ⟨d, hd, hsame⟩ := h.2 d' hd'
    exact ⟨d, hd, (text_eq_ok_iff hsame).2 htag⟩

theorem exists_tags_iff {ds ds' : List Document} (h : SameTags ds ds') :
    (∃ tags, Json.items Json.text room ds = .ok tags) ↔ ∃ tags, Json.items Json.text room ds' = .ok tags := by
  rw [Json.items_eq_mapM, Json.items_eq_mapM, Json.exists_mapM_iff, Json.exists_mapM_iff]
  constructor
  · intro hds d' hd'
    obtain ⟨d, hd, hsame⟩ := h.2 d' hd'
    exact (hds d hd).imp fun _ => (text_eq_ok_iff hsame).1
  · intro hds' d hd
    obtain ⟨d', hd', hsame⟩ := h.1 d hd
    exact (hds' d' hd').imp fun _ => (text_eq_ok_iff hsame).2

theorem tagsOf_eq (h : SameList SameTags d d') (room : Nat) : tagsOf room d = tagsOf room d' := by
  apply list_rel (P := Eq) (fun _ => rfl) _ h
  intro ds ds' hds
  cases hitems : Json.items Json.text (room - 1) ds with
  | ok tags =>
    obtain ⟨tags', hitems'⟩ := (exists_tags_iff hds).1 ⟨tags, hitems⟩
    have hset : NameSet.ofNames tags = NameSet.ofNames tags' := by
      apply NameSet.ofNames_eq
      intro tag
      rw [Json.items_eq_mapM] at hitems hitems'
      rw [Json.mem_of_mapM hitems, Json.mem_of_mapM hitems', exists_text_iff hds]
    rw [hitems']
    exact congrArg some hset
  | error e =>
    cases hitems' : Json.items Json.text (room - 1) ds' with
    | error e' => rfl
    | ok tags' =>
      obtain ⟨tags, htags⟩ := (exists_tags_iff hds).2 ⟨tags', hitems'⟩
      rw [hitems] at htags
      cases htags

theorem passageOf_of_isRecord (hd : d.IsRecord passageMembers) (hroom : 2 < room) :
    passageOf room d =
      ((d.field? "pid" 0).bind (idOf (room - 1))).bind fun pid =>
        ((d.field? "name" 1).bind (textOf (room - 1))).bind fun name =>
          (textOf (room - 1) (textIn d)).bind fun text =>
            (tagsOf (room - 1) (tagsIn d)).bind fun tags =>
              (linksOf (room - 1) (linksIn d)).map fun links =>
                links.bind fun links => pid.map fun id => { id, name, text, tags, links } := by
  have htext : Json.text (room - 1) (.text "") = .ok "" := rfl
  have hempty : ∀ {α : Type} (r : Reader α), Json.list r (room - 1) (.list []) = .ok [] := by
    intro α r
    rw [Json.list, Json.enter, if_neg (by omega)]
    rfl
  rw [passageOf, readPassage, Json.toOption_record ?_ ?_ hd]
  · rw [if_neg (by omega), Option.map_map]
    simp only [Json.Fields.map_pick_cons, Json.Fields.map_pick_nil, Json.fieldValue_required,
      Json.fieldValue_optional (hempty Json.text), Json.fieldValue_optional (hempty readLink),
      Json.fieldValue_optional htext]
    simp only [idOf, textOf, tagsOf, linksOf, Option.map_eq_bind, Option.bind_assoc, Option.bind_some,
      Function.comp_apply]
    rfl
  · rfl
  · decide

theorem passageOf_eq (h : SamePassage d d') (hroom : 2 < room) : passageOf room d = passageOf room d' := by
  cases h with
  | same h => rw [h]
  | record hd hd' pid name text tags links =>
    rw [passageOf_of_isRecord hd hroom, passageOf_of_isRecord hd' hroom,
      bind_idOf_eq pid, bind_textOf_eq name, textOf_eq text, tagsOf_eq tags, linksOf_eq links]

/-! ### Lists of passages -/

/-- The same passages in any order, or the same error. -/
inductive SameUpToOrder : Except StoryError (List Passage) → Except StoryError (List Passage) → Prop
  | same (r : Except StoryError (List Passage)) : SameUpToOrder r r
  | perm {ps qs : List Passage} (h : ps.Perm qs) : SameUpToOrder (.ok ps) (.ok qs)

theorem resolveAll_eq_mapM {α β : Type} (f : α → Except StoryError β) (as : List α) :
    resolveAll f as = as.mapM f := by
  induction as with
  | nil => rfl
  | cons a as ih =>
    rw [resolveAll, List.mapM_cons, ih]
    rfl

theorem exists_resolve_of_idOf {i : Document} {id : PassageId} {pid : DraftId} (hid : WritesId id i)
    (hread : (readId room i).toOption = some pid) : pid.resolve = .ok id := by
  have hpid := idOf_of_writesId hid room
  rw [idOf, hread] at hpid
  exact Option.some.inj hpid

/-- What was read of a link with a well-formed id can be resolved. -/
theorem exists_resolve_of_readLink (hids : ∀ i, d.field? "pid" 2 = some i → ∃ id, WritesId id i)
    {l : DraftLink} (hread : readLink room d = .ok l) : ∃ q, l.resolve = .ok q := by
  have h := Option.map_eq_some_iff.2 (Json.exists_pick_of_record (by decide) hread)
  simp only [Json.Fields.map_pick_cons, Json.Fields.map_pick_nil, Json.fieldValue_required,
    Option.bind_eq_some_iff, Option.some.injEq] at h
  obtain ⟨name, -, link, -, pid, ⟨i, hi, hpid⟩, rfl⟩ := h
  obtain ⟨id, hid⟩ := hids i hi
  refine ⟨{ label := name, targetName := link, targetId := id }, ?_⟩
  rw [DraftLink.resolve, exists_resolve_of_idOf hid hpid]
  rfl

/-- What was read of a passage with well-formed ids can be resolved. -/
theorem HasIds.exists_resolve (h : HasIds d) (hroom : 2 < room) {p : DraftPassage}
    (hread : readPassage room d = .ok p) : ∃ q, p.resolve = .ok q := by
  have hempty : Json.list readLink (room - 1) (.list []) = .ok [] :=
    Json.list_eq_ok_iff.2 ⟨by omega, [], rfl, rfl⟩
  have hpick := Option.map_eq_some_iff.2 (Json.exists_pick_of_record (by decide) hread)
  simp only [Json.Fields.map_pick_cons, Json.Fields.map_pick_nil, Json.fieldValue_required,
    Json.fieldValue_optional hempty, Option.bind_eq_some_iff, Option.some.injEq] at hpick
  obtain ⟨pid, ⟨i, hi, hpid⟩, name, -, text, -, tags, -, links, hlinks, rfl⟩ := hpick
  obtain ⟨id, hid⟩ := h.pid i hi
  obtain ⟨-, ds, hds, hitems⟩ := Json.list_eq_ok_iff.1 (Json.toOption_eq_some_iff.1 hlinks)
  have hresolved : ∃ qs, links.mapM DraftLink.resolve = .ok qs := by
    rw [Json.items_eq_mapM] at hitems
    refine Json.exists_mapM_iff.2 fun l hl => ?_
    obtain ⟨e, he, hread⟩ := (Json.mem_of_mapM hitems l).1 hl
    exact exists_resolve_of_readLink (h.links ds hds e he) hread
  obtain ⟨qs, hqs⟩ := hresolved
  rw [← resolveAll_eq_mapM] at hqs
  refine ⟨{ id, name, text, tags := NameSet.ofNames tags, links := qs }, ?_⟩
  rw [DraftPassage.resolve, hqs, Except.bind, exists_resolve_of_idOf hid hpid]
  rfl

/-- Passages in another order come to the same, if all their ids are well formed. -/
theorem rel_of_perm {ds es : List Document} (hids : ∀ d ∈ ds, HasIds d) (h : ds.Perm es) (hroom : 2 < room) :
    Option.Rel SameUpToOrder ((Json.items readPassage room ds).toOption.map (resolveAll DraftPassage.resolve))
      ((Json.items readPassage room es).toOption.map (resolveAll DraftPassage.resolve)) := by
  cases hds : Json.items readPassage room ds with
  | ok ps =>
    rw [Json.items_eq_mapM] at hds
    have hresolved : ∃ qs, ps.mapM DraftPassage.resolve = .ok qs := by
      refine Json.exists_mapM_iff.2 fun p hp => ?_
      obtain ⟨d, hd, hread⟩ := (Json.mem_of_mapM hds p).1 hp
      exact (hids d hd).exists_resolve hroom hread
    obtain ⟨qs, hqs⟩ := hresolved
    obtain ⟨ps', hps', hperm⟩ := Json.exists_mapM_of_perm h hds
    obtain ⟨qs', hqs', hperm'⟩ := Json.exists_mapM_of_perm hperm hqs
    rw [Json.items_eq_mapM, hps']
    rw [← resolveAll_eq_mapM] at hqs hqs'
    simp only [Json.toOption_ok, Option.map_some, hqs, hqs']
    exact .some (.perm hperm')
  | error e =>
    cases hes : Json.items readPassage room es with
    | error e' => exact .none
    | ok ps' =>
      rw [Json.items_eq_mapM] at hds hes
      obtain ⟨ps, hps, -⟩ := Json.exists_mapM_of_perm h.symm hes
      rw [hds] at hps
      cases hps

theorem passagesOf_rel (h : SameList SamePassages d d') (hroom : 3 < room) :
    Option.Rel SameUpToOrder (passagesOf room d) (passagesOf room d') := by
  have hrefl : ∀ x, Option.Rel SameUpToOrder x x := by
    intro x
    cases x with
    | none => exact .none
    | some r => exact .some (.same r)
  apply list_rel hrefl _ h
  intro ds ds' hds
  have heq : ∀ {es}, List.Forall₂ SamePassage es ds' →
      (Json.items readPassage (room - 1) es).toOption.map (resolveAll DraftPassage.resolve) =
        (Json.items readPassage (room - 1) ds').toOption.map (resolveAll DraftPassage.resolve) :=
    fun hes => resolveAll_items_eq (hes.imp fun _ _ hd => passageOf_eq hd (by omega))
  rcases hds with hds | ⟨hids, es, hperm, hes⟩
  · rw [heq hds]
    exact hrefl _
  · rw [← heq hes]
    exact rel_of_perm hids hperm (by omega)

theorem bind_passagesOf_rel {o o' : Option Document} (h : Option.Rel (SameList SamePassages) o o')
    (hroom : 3 < room) : Option.Rel SameUpToOrder (o.bind (passagesOf room)) (o'.bind (passagesOf room)) := by
  cases h with
  | none => exact .none
  | some h => exact passagesOf_rel h hroom

/-! ### Stories -/

/-- A draft without an alternate start of its own has the start for it. -/
theorem build_draft (start : DraftId) (altStart : Option DraftId) (passages : List DraftPassage) :
    Draft.build { startnode := start, altstartnode := altStart, passages } =
      start.resolve.bind fun id =>
        (altStart.getD start).resolve.bind fun altId =>
          (resolveAll DraftPassage.resolve passages).bind fun passages => Story.build passages id altId := by
  cases altStart with
  | some pid => rfl
  | none =>
    rw [Draft.build, Option.getD_none]
    cases start.resolve <;> rfl

theorem altStartIn_of_ne_null {e : Document} (halt : d.field? "altstartnode" 1 = some e) (hnull : e ≠ .null) :
    altStartIn d = some e := by
  rw [altStartIn, halt]
  cases e with
  | null => exact absurd rfl hnull
  | _ => rfl

/-- The alternate start is that of the document, or else the start. -/
theorem bind_idOf_altStartIn {i : Document} {start : DraftId} (hi : d.field? "startnode" 0 = some i)
    (hstart : (readId room i).toOption = some start) :
    (altStartIn d).bind (idOf room) =
      (Json.fieldValue (Json.option readId) room (some none) none (d.field? "altstartnode" 1)).map fun altStart =>
        (altStart.getD start).resolve := by
  have hdefault : idOf room i = some start.resolve := by
    rw [idOf, hstart, Option.map_some]
  cases halt : d.field? "altstartnode" 1 with
  | none =>
    rw [altStartIn, halt, hi]
    exact hdefault
  | some e =>
    by_cases hnull : e = .null
    · subst hnull
      rw [altStartIn, halt, hi]
      exact hdefault
    · rw [altStartIn_of_ne_null halt hnull, Option.bind_some, Json.fieldValue, Json.option_of_ne_null hnull,
        Json.toOption_map, Option.map_map]
      rfl

theorem storyOf_of_isRecord (hd : d.IsRecord storyMembers) (hroom : 1 < room) :
    storyOf room d =
      ((d.field? "startnode" 0).bind (idOf (room - 1))).bind fun start =>
        ((altStartIn d).bind (idOf (room - 1))).bind fun altStart =>
          ((d.field? "passages" 2).bind (passagesOf (room - 1))).map fun passages =>
            start.bind fun start => altStart.bind fun altStart => passages.bind fun passages =>
              Story.build passages start altStart := by
  rw [storyOf, readDraft, Json.toOption_record ?_ ?_ hd]
  · rw [if_neg (by omega), Option.map_map]
    simp only [Json.Fields.map_pick_cons, Json.Fields.map_pick_nil, Json.fieldValue_required]
    cases hi : d.field? "startnode" 0 with
    | none => rfl
    | some i =>
      rw [Option.bind_some, Option.bind_some, idOf]
      cases hstart : (readId (room - 1) i).toOption with
      | none => rfl
      | some start =>
        rw [Option.bind_some, Option.map_some, Option.bind_some, bind_idOf_altStartIn hi hstart]
        simp only [passagesOf, Option.map_eq_bind, Option.bind_assoc, Option.bind_some, Function.comp_apply,
          ← build_draft]
        rfl
  · rfl
  · decide

/-- Passages in another order are built into the same story. -/
theorem map_build_eq {o o' : Option (Except StoryError (List Passage))} (h : Option.Rel SameUpToOrder o o')
    (start altStart : Except StoryError PassageId) :
    (o.map fun passages => start.bind fun start => altStart.bind fun altStart =>
      passages.bind fun passages => Story.build passages start altStart) =
    o'.map fun passages => start.bind fun start => altStart.bind fun altStart =>
      passages.bind fun passages => Story.build passages start altStart := by
  cases h with
  | none => rfl
  | some h =>
    cases h with
    | same => rfl
    | perm h => simp only [Option.map_some, Except.bind, Story.build_perm h]

/-- **Documents that spell the same story come to the same**, or neither can be read. -/
theorem storyOf_eq (h : SameStory d d') (hroom : 4 < room) : storyOf room d = storyOf room d' := by
  cases h with
  | same h => rw [h]
  | record hd hd' startnode altstartnode passages =>
    have hpassages : Option.Rel SameUpToOrder ((d.field? "passages" 2).bind (passagesOf (room - 1)))
        ((d'.field? "passages" 2).bind (passagesOf (room - 1))) :=
      bind_passagesOf_rel passages (by omega)
    rw [storyOf_of_isRecord hd (by omega), storyOf_of_isRecord hd' (by omega), bind_idOf_eq startnode,
      bind_idOf_eq altstartnode]
    simp only [map_build_eq hpassages]

end Twison

namespace Story

open Twison (SameStory storyOf)

variable {s s' : String} {d d' : Document}

/-- A text leads to what its document comes to; it is malformed if the document cannot be read. -/
theorem ofText_cases (hs : Document.ofText s.toList = (d, none)) :
    storyOf Json.maximalRoom d = some (ofText s) ∨
      storyOf Json.maximalRoom d = none ∧ ∃ problem, ofText s = .error (.malformed .text problem) := by
  rw [ofText, Json.readText_eq hs, storyOf]
  cases Twison.readDraft Json.maximalRoom d with
  | ok draft => exact .inl rfl
  | error problem => exact .inr ⟨rfl, problem, rfl⟩

/--
**A story does not depend on how it is spelled.** Texts that spell the same story lead to the same story
or the same error, or both are malformed.
-/
theorem ofText_eq_of_sameStory (hs : Document.ofText s.toList = (d, none))
    (hs' : Document.ofText s'.toList = (d', none)) (h : SameStory d d') :
    ofText s = ofText s' ∨
      (∃ problem, ofText s = .error (.malformed .text problem)) ∧
        ∃ problem, ofText s' = .error (.malformed .text problem) := by
  have hsame := Twison.storyOf_eq h (by decide : 4 < Json.maximalRoom)
  rcases ofText_cases hs with hd | ⟨hd, hproblem⟩
  · rcases ofText_cases hs' with hd' | ⟨hd', -⟩
    · rw [hd, hd'] at hsame
      exact .inl (Option.some.inj hsame)
    · rw [hd, hd'] at hsame
      cases hsame
  · rcases ofText_cases hs' with hd' | ⟨-, hproblem'⟩
    · rw [hd, hd'] at hsame
      cases hsame
    · exact .inr ⟨hproblem, hproblem'⟩

/-! ## A story in two spellings -/

/-- A gate that leads to a hall. -/
def gate : Json :=
  .object [("startnode", .string "1"), ("passages", .array [
    .object [("pid", .natural 1), ("name", .string "Gate"), ("text", .string ""),
      ("tags", .array [.string "GOOD", .string "EGG"]),
      ("links", .array [.object [("name", .string "In"), ("link", .string "Hall"), ("pid", .natural 2)]])],
    .object [("pid", .natural 2), ("name", .string "Hall")]])]

/-- The same story with other ids, members, tags and in another order. -/
def gateRespelled : Json :=
  .object [("zoom", .bool true), ("passages", .array [
    .object [("name", .string "Hall"), ("pid", .string "2")],
    .object [("name", .string "Gate"), ("pid", .string "1"),
      ("tags", .array [.string "EGG", .string "GOOD", .string "EGG"]),
      ("links", .array [.object [("link", .string "Hall"), ("name", .string "In"), ("pid", .string " +02")]])]]),
    ("altstartnode", .natural 1), ("startnode", .natural 1)]

open Twison in
theorem sameStory_gate : SameStory gate.toDocument gateRespelled.toDocument := by
  have hone : WritesId 1 (.text "1") := .text _ [] 0 (.inl rfl) (by decide)
  have htwo : WritesId 2 (.text "2") := .text _ [] 0 (.inl rfl) (by decide)
  have hplus : WritesId 2 (.text " +02") := .text _ ['+'] 1 (.inr rfl) (by decide)
  refine .record (.object (Json.wellFormed_of_sublist (by decide) (by decide)))
    (.object ⟨by simp, by decide, by decide⟩) (.some (.inr ⟨1, hone, .number⟩)) (.some (.inr ⟨1, hone, .number⟩))
    (.some (.inr (.inr ⟨_, _, rfl, rfl, .inr ⟨?ids, _, .swap _ _ _, .cons ?hall (.cons ?gate .nil)⟩⟩)))
  case ids =>
    refine List.forall_mem_cons.2 ⟨⟨?_, ?_⟩, List.forall_mem_singleton.2 ⟨?_, ?_⟩⟩
    · intro i hi
      obtain rfl := Option.some.inj hi
      exact ⟨1, .number⟩
    · intro ds hds l hl i hi
      obtain ⟨rfl, -⟩ := Document.array.inj hds
      obtain rfl := List.mem_singleton.1 hl
      obtain rfl := Option.some.inj hi
      exact ⟨2, .number⟩
    · intro i hi
      obtain rfl := Option.some.inj hi
      exact ⟨2, .number⟩
    · intro ds hds l hl
      obtain ⟨rfl, -⟩ := Document.array.inj hds
      cases hl
  case hall =>
    exact .record (.object (Json.wellFormed_of_sublist (by decide) (by decide)))
      (.object ⟨by simp, by decide, by decide⟩) (.some (.inr ⟨2, .number, htwo⟩)) (.some (.inl rfl))
      (.inl rfl) (.inl rfl) (.inl rfl)
  case gate =>
    refine .record (.object (Json.wellFormed_of_sublist (by decide) (by decide)))
      (.object ⟨by simp, by decide, by decide⟩) (.some (.inr ⟨1, .number, hone⟩)) (.some (.inl rfl)) (.inl rfl)
      (.inr (.inr ⟨_, _, rfl, rfl, ?_, ?_⟩)) (.inr (.inr ⟨_, _, rfl, rfl, .cons ?_ .nil⟩))
    · simp [SameText]
    · simp [SameText]
    · exact .record (.object (Json.wellFormed_of_sublist (by decide) (by decide)))
        (.object ⟨by simp, by decide, by decide⟩) (.some (.inl rfl)) (.some (.inl rfl)) (.some (.inr ⟨2, .number, hplus⟩))

/-- Both are read, as the same story. -/
theorem ofText_gate :
    let s := String.ofList (Json.compact gate)
    let s' := String.ofList (Json.compact gateRespelled)
    Document.ofText s.toList = (gate.toDocument, none) ∧
    Document.ofText s'.toList = (gateRespelled.toDocument, none) ∧
    SameStory gate.toDocument gateRespelled.toDocument ∧
    (ofText s).toOption.map (fun story => story.passages.map (·.name)) = some ["Gate", "Hall"] ∧
    ofText s = ofText s' := by
  intro s s'
  have hs : Document.ofText s.toList = (gate.toDocument, none) := by
    rw [String.toList_ofList]
    apply Json.ofText_compact
    simp only [gate, Json.IsPlain, Json.ArePlain, Json.HavePlain, and_true, true_and]
    decide
  have hs' : Document.ofText s'.toList = (gateRespelled.toDocument, none) := by
    rw [String.toList_ofList]
    apply Json.ofText_compact
    simp only [gateRespelled, Json.IsPlain, Json.ArePlain, Json.HavePlain, and_true, true_and]
    decide
  have hread : (ofText s).toOption.map (fun story => story.passages.map (·.name)) = some ["Gate", "Hall"] := by
    decide +kernel
  refine ⟨hs, hs', sameStory_gate, hread, ?_⟩
  rcases ofText_eq_of_sameStory hs hs' sameStory_gate with h | ⟨⟨problem, h⟩, -⟩
  · exact h
  · rw [h] at hread
    cases hread

end Story

end VisualNovel
