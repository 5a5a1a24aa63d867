/-
  VisualNovel.Proofs.Wire.RoundTrip

  Values that are exchanged as JSON are read back as they were written. Written
  values are plain, so the text on one line has the document of the value
  (`ofText_compact`); what is left is that each reader takes the document of its
  own values. Readers of parts are used within readers of wholes, so
  `Wire.ReadsBack` says it for any room that is enough for the levels of nesting.
-/

import VisualNovel.Proofs.Json.Spelling
import VisualNovel.Proofs.Json.Reading
import VisualNovel.Proofs.Ledger.SaveCodec
import VisualNovel.Proofs.NameMap
import VisualNovel.Wire.Stage

namespace VisualNovel

open Json (toDocument IsPlain ArePlain HavePlain)

/-! ## Parts of documents -/

namespace Json

theorem arePlain_map {α : Type} {f : α → Json} (h : ∀ a, IsPlain (f a)) (as : List α) :
    ArePlain (as.map f) := by
  induction as with
  | nil => trivial
  | cons a as ih => exact ⟨h a, ih⟩

/-- A list whose items are read back is read back, one level further down. -/
theorem list_toDocument {α : Type} {r : Reader α} {f : α → Json} {room : Nat} (hroom : 1 < room)
    (h : ∀ a, r (room - 1) (f a).toDocument = .ok a) (as : List α) :
    list r room (toDocument (.array (as.map f))) = .ok as := by
  rw [toDocument, toDocuments_eq_map, List.map_map]
  refine list_eq_ok_iff.2 ⟨hroom, _, rfl, ?_⟩
  rw [items_eq_mapM, mapM_eq_ok_iff, List.forall₂_map_left_iff, List.forall₂_same]
  exact fun a _ => h a

/-- Sound members that are no tags are left as they are when the tag is taken out. -/
theorem takeTag_eq_ok {α : Type} {tag : String} {known : List (String × α)} {room : Nat} {found : Option α}
    {ms : List (String × Json)} (h : ∀ m ∈ ms, m.1 ≠ tag ∧ ∃ j, value room m.2.toDocument = .ok j) :
    takeTag tag known room (toMembers ms) found = .ok (found, toMembers ms) := by
  induction ms with
  | nil => rfl
  | cons m ms ih =>
    rw [List.forall_mem_cons] at h
    obtain ⟨name, j⟩ := m
    obtain ⟨⟨hname, j', hvalue⟩, hrest⟩ := h
    simp only [toMembers, takeTag, if_neg hname, hvalue, Except.bind, ih hrest, Except.map]

/-- A tag in front of sound members leads to the reader of the content. -/
theorem tagged_eq_content {α : Type} {tag what name : String}
    {known : List (String × (Document → Except Problem α))} {content : Document → Except Problem α}
    {ms : List (String × Json)} {room : Nat} (hroom : 1 < room)
    (hname : variantNamed known name = .ok content)
    (hms : ∀ m ∈ ms, m.1 ≠ tag ∧ ∃ j, value (room - 1) m.2.toDocument = .ok j) :
    tagged tag what known room (Json.object ((tag, .string name) :: ms)).toDocument =
      content (Json.object ms).toDocument := by
  have henter : ¬ room ≤ 1 := by omega
  simp only [toDocument, toMembers, tagged, enter, henter, if_false, takeTag, if_true, variantTag, hname,
    Except.bind, takeTag_eq_ok hms, Tail.read]

end Json

/-! ## Types of values -/

namespace Wire

/-- The values of a type are read back where there is room for more than their levels of nesting. -/
structure ReadsBack (α : Type) [Wire α] (levels : Nat) : Prop where
  isPlain : ∀ a : α, IsPlain (toJson a)
  read_eq : ∀ (a : α) {room : Nat}, levels < room → read room (toJson a).toDocument = .ok a

/-- **What is written on one line is read back**, if it is not nested deeper than any text may be. -/
theorem ReadsBack.decode_encode {α : Type} [Wire α] {levels : Nat} (h : ReadsBack α levels)
    (hlevels : levels < Json.maximalRoom) (a : α) : decode (encode a) = .ok a := by
  rw [decode, encode, Json.readText, String.toList_ofList, Json.ofText_compact (h.isPlain a)]
  simp only [h.read_eq a hlevels, Except.bind]

theorem ReadsBack.toOption_read {α : Type} [Wire α] {levels room : Nat} (h : ReadsBack α levels)
    (hroom : levels < room) (a : α) : (read room (toJson a).toDocument).toOption = some a :=
  congrArg Except.toOption (h.read_eq a hroom)

/-- A structure is read back if its members stand in order and its fields are read back one by one. -/
theorem ReadsBack.of_record {α : Type} [Wire α] {ts : List Type} {what : String} {fields : Json.Fields ts}
    {make : Json.Row ts → α} {ms : α → List (String × Json)} {levels : Nat}
    (hread : (read : Json.Reader α) = Json.record what fields make) (hnames : fields.names.Nodup)
    (hwrite : ∀ a : α, toJson a = .object (ms a)) (hplain : ∀ a, HavePlain (ms a))
    (hms : ∀ a, ((ms a).map (·.1)).Sublist fields.names)
    (hpick : ∀ a {room : Nat}, levels < room →
      (fields.pick room (Json.object (ms a)).toDocument 0).map make = some a) :
    ReadsBack α (levels + 1) where
  isPlain a := by
    rw [hwrite]
    exact hplain a
  read_eq a room hroom := by
    rw [hread, hwrite]
    exact Json.record_eq_ok hnames (hms a) (by omega) (hpick a (by omega))

open Json.Fields (map_pick_eq_some)

theorem readsBack_id : ReadsBack PassageId 0 where
  isPlain id := Nat.lt_trans id.toNat_lt (by decide)
  read_eq id _ _ := Json.word_natural _ id

theorem readsBack_link : ReadsBack Link 1 := by
  apply ReadsBack.of_record rfl (by decide) fun l => rfl
  · intro l
    exact ⟨trivial, trivial, readsBack_id.isPlain l.targetId, trivial⟩
  · simp
  · intro l room hroom
    exact map_pick_eq_some rfl <| map_pick_eq_some rfl <|
      map_pick_eq_some (readsBack_id.toOption_read hroom l.targetId) rfl

theorem readsBack_passage : ReadsBack Passage 3 := by
  apply ReadsBack.of_record rfl (by decide) fun p => rfl
  · intro p
    exact ⟨readsBack_id.isPlain p.id, trivial, trivial, Json.arePlain_map (f := .string) (fun _ => trivial) _,
      Json.arePlain_map readsBack_link.isPlain _, trivial⟩
  · simp
  · intro p room hroom
    have htags : Json.list Json.text room (toDocument (.array (p.tags.names.map .string))) = .ok p.tags.names :=
      Json.list_toDocument (by omega) (fun _ => rfl) _
    have hlinks : Json.list Link.read room (toDocument (.array (p.links.map Link.toJson))) = .ok p.links :=
      Json.list_toDocument (by omega) (fun l => readsBack_link.read_eq l (by omega)) _
    have hid : (read room (toJson p.id).toDocument).toOption = some p.id :=
      readsBack_id.toOption_read (by omega) p.id
    refine map_pick_eq_some hid <| map_pick_eq_some rfl <| map_pick_eq_some rfl <|
      map_pick_eq_some (congrArg Except.toOption htags) <| map_pick_eq_some (congrArg Except.toOption hlinks) ?_
    exact congrArg (fun tags => some { p with tags }) (NameSet.ofNames_names p.tags)

theorem readsBack_choiceItem : ReadsBack ChoiceItem 1 := by
  apply ReadsBack.of_record rfl (by decide) fun c => rfl
  · intro c
    exact ⟨trivial, readsBack_id.isPlain c.targetId, trivial⟩
  · simp
  · intro c room hroom
    exact map_pick_eq_some rfl <| map_pick_eq_some (readsBack_id.toOption_read hroom c.targetId) rfl

theorem readsBack_outcome : ReadsBack Outcome 1 := by
  apply ReadsBack.of_record rfl (by decide) fun o => rfl
  · intro o
    exact ⟨trivial, trivial, trivial⟩
  · simp
  · intro o room hroom
    have hcategory : Json.variant OutcomeCategory.wireNames room (toJson o.category).toDocument = .ok o.category := by
      cases o.category <;> rfl
    exact map_pick_eq_some rfl <| map_pick_eq_some (congrArg Except.toOption hcategory) rfl

theorem readsBack_animationCue : ReadsBack AnimationCue 1 := by
  apply ReadsBack.of_record rfl (by decide) fun c => rfl
  · intro c
    exact ⟨trivial, trivial, trivial⟩
  · simp
  · intro c room hroom
    exact map_pick_eq_some rfl <| map_pick_eq_some rfl rfl

theorem readsBack_endingRecord : ReadsBack EndingRecord 1 where
  isPlain := EndingRecord.isPlain_toJson
  read_eq r _ hroom := EndingRecord.read_toDocument hroom r

theorem readsBack_userChoice : ReadsBack UserChoice 1 where
  isPlain
    | .passage id => ⟨trivial, readsBack_id.isPlain id, trivial⟩
    | .start _ => ⟨trivial, trivial, trivial⟩
    | .restart => ⟨trivial, trivial⟩
  read_eq c room hroom := by
    change UserChoice.read room (UserChoice.toJson c).toDocument = .ok c
    cases c with
    | passage id =>
      have hcontent : UserChoice.readPassage Json.maximalRoom (Json.object [("target_id", toJson id)]).toDocument =
          .ok (.passage id) := by
        apply Json.record_eq_ok (by decide) (by simp) (by decide)
        exact map_pick_eq_some (readsBack_id.toOption_read (by decide) id) rfl
      rw [UserChoice.read, UserChoice.toJson, Json.tagged_eq_content hroom rfl, hcontent]
      exact List.forall_mem_singleton.2 ⟨by simp, _, rfl⟩
    | start v =>
      have hcontent : UserChoice.readStart Json.maximalRoom (Json.object [("variant", toJson v)]).toDocument =
          .ok (.start v) := by
        apply Json.record_eq_ok (by decide) (by simp) (by decide)
        exact map_pick_eq_some (a := v) (by cases v <;> rfl) rfl
      rw [UserChoice.read, UserChoice.toJson, Json.tagged_eq_content hroom rfl, hcontent]
      exact List.forall_mem_singleton.2 ⟨by simp, _, rfl⟩
    | restart =>
      rw [UserChoice.read, UserChoice.toJson, Json.tagged_eq_content hroom rfl]
      · rfl
      · exact List.forall_mem_nil _

/-- **Every value that is exchanged is read back from the line that it is written on.** -/
theorem decode_encode_of_exchanged :
    (∀ p : Passage, decode (encode p) = .ok p) ∧
    (∀ l : Link, decode (encode l) = .ok l) ∧
    (∀ o : Outcome, decode (encode o) = .ok o) ∧
    (∀ c : AnimationCue, decode (encode c) = .ok c) ∧
    (∀ r : EndingRecord, decode (encode r) = .ok r) ∧
    (∀ c : ChoiceItem, decode (encode c) = .ok c) ∧
    (∀ c : UserChoice, decode (encode c) = .ok c) := by
  refine ⟨?_, ?_, ?_, ?_, ?_, ?_, ?_⟩
  · exact readsBack_passage.decode_encode (by decide)
  · exact readsBack_link.decode_encode (by decide)
  · exact readsBack_outcome.decode_encode (by decide)
  · exact readsBack_animationCue.decode_encode (by decide)
  · exact readsBack_endingRecord.decode_encode (by decide)
  · exact readsBack_choiceItem.decode_encode (by decide)
  · exact readsBack_userChoice.decode_encode (by decide)

end Wire

end VisualNovel
