/-
  VisualNovel.Proofs.Ledger.SaveCodec

  A save that is written is read back as it was: every name, flag, tag and
  instant. The record of a name is written in its full form, and of the forms a
  record may have that one is tried first. So a text in an older form can be
  written anew without loss (`exact_codec`).
-/

import VisualNovel.Ledger.Save
import VisualNovel.Proofs.Json.Spelling
import VisualNovel.Proofs.NameMap
import VisualNovel.Proofs.Time.Timestamp

namespace VisualNovel

open Json (toDocument IsPlain HavePlain)

/-! ## Records -/

namespace EndingRecord

theorem isPlain_toJson (r : EndingRecord) : IsPlain r.toJson := by
  obtain ⟨reached, outcome, firstReachedAt⟩ := r
  cases outcome <;> cases firstReachedAt <;>
    simp [toJson, knownMember, IsPlain, HavePlain]

/-- An instant is read from the text that was written for it. -/
@[simp] theorem readInstant_text (room : Nat) (t : Time.Instant) :
    readInstant room (.text (.ofList t.text)) = .ok t := by
  rw [readInstant, String.toList_ofList, Time.Instant.ofText_text]
  rfl

/-- A record is read in full, with room for the one object that it is. -/
theorem read_toDocument {room : Nat} (h : 1 < room) (r : EndingRecord) :
    read room r.toJson.toDocument = .ok r := by
  have hroom : ¬ room ≤ 1 := by omega
  obtain ⟨reached, outcome, firstReachedAt⟩ := r
  cases outcome <;> cases firstReachedAt <;>
    simp [read, toJson, toDocument, knownMember, Json.record, Json.enter, hroom, Json.Fields.gather,
      Json.Fields.put, Json.Fields.unread, Json.Fields.finish, Json.flag, Json.option, Json.text,
      Json.Tail.read, Except.bind, Except.map]

/-- The document of a record is sound, so it can be read ahead of its alternatives. -/
theorem exists_value_toDocument {room : Nat} (h : 1 < room) (r : EndingRecord) :
    ∃ j, Json.value room r.toJson.toDocument = .ok j := by
  have hroom : ¬ room ≤ 1 := by omega
  obtain ⟨reached, outcome, firstReachedAt⟩ := r
  cases outcome <;> cases firstReachedAt <;>
    simp [toJson, toDocument, knownMember, Json.value, Json.memberValues, hroom, Json.Tail.read,
      Except.bind, Except.map]

/-- Of the forms that a saved record may have, the full one is found first. -/
theorem readSaved_toDocument {room : Nat} (h : 1 < room) (r : EndingRecord) :
    readSaved room r.toJson.toDocument = .ok r := by
  -- The document is read as plain data first, so it has to be sound as such.
  obtain ⟨j, hvalue⟩ := exists_value_toDocument h r
  have hread := read_toDocument h r
  simp only [readSaved, Json.untagged, hvalue, Except.bind, Json.firstOf, List.findSome?_cons, hread,
    Except.toOption]

end EndingRecord

/-! ## Saves -/

namespace Save

theorem havePlain_map_toJson (es : List (String × EndingRecord)) :
    HavePlain (es.map fun e => (e.1, e.2.toJson)) := by
  induction es with
  | nil => trivial
  | cons e es ih => exact ⟨e.2.isPlain_toJson, ih⟩

/-- The members of a save are read one by one. -/
theorem members_toDocument {room : Nat} (h : 1 < room) (es : List (String × EndingRecord)) :
    Json.members EndingRecord.readSaved room
      (es.map fun e => (.ok e.1, e.2.toJson.toDocument)) = .ok es := by
  induction es with
  | nil => rfl
  | cons e es ih =>
    rw [List.map_cons, Json.members, EndingRecord.readSaved_toDocument h, Except.bind, ih]
    rfl

/-- A save is read with room for an object of objects. -/
theorem read_toDocument {room : Nat} (h : 2 < room) (s : Save) :
    read room s.toJson.toDocument = .ok s := by
  have hroom : ¬ room ≤ 1 := by omega
  have hmembers := members_toDocument (by omega : 1 < room - 1) s.entries
  rw [toJson, toDocument, Json.toMembers_eq_map, List.map_map]
  simp only [read, Json.map, Json.enter, hroom, if_false, Function.comp_def, hmembers, Except.bind,
    Json.Tail.read, Except.map, NameMap.ofList_entries]

/-- **A save is read back as it was written.** -/
theorem decode_encode (s : Save) : decode s.encode = .ok s := by
  have hplain : IsPlain s.toJson := havePlain_map_toJson s.entries
  have hread := read_toDocument (by decide : 2 < Json.maximalRoom) s
  rw [decode, encode, Json.readText, String.toList_ofList, Json.ofText_pretty hplain]
  simp only [hread, Except.bind]

/-- Saves that differ are written differently. -/
theorem encode_injective {s s' : Save} (h : s.encode = s'.encode) : s = s' := by
  have hdecode := decode_encode s
  rw [h, decode_encode s'] at hdecode
  exact (Except.ok.inj hdecode).symm

/--
**The codec of saves is exact.** Whatever names, flags, tags and instants a save has, it is read back
as it was written, and no other save is written alike. So whatever was read from a text, in any of
the forms that records had, is read from the text that is written for it.
-/
theorem exact_codec :
    (∀ s : Save, decode s.encode = .ok s) ∧
    (∀ s s' : Save, s.encode = s'.encode → s = s') ∧
    ∀ (text : String) (s : Save), decode text = .ok s → decode s.encode = .ok s := by
  refine ⟨decode_encode, ?_, ?_⟩
  · intro s s' h
    exact encode_injective h
  · intro text s _
    exact decode_encode s

theorem decode_of_toOption {text : String} {s : Save} (h : (decode text).toOption = some s) :
    decode text = .ok s := by
  cases hdecode : decode text with
  | ok s' =>
    rw [hdecode] at h
    exact congrArg _ (Option.some.inj h)
  | error e =>
    rw [hdecode] at h
    cases h

/-- A save in older forms: a flag, a tag, escapes, and a leap second by another offset. -/
def olderText : String :=
  "\x7b\"Cave\": true, \"Tower\": \"Good-End\", \"Caf\\u00e9 \\ud83c\\udf0a\": " ++
    "\x7b\"first_reached_at\": \"+12016-12-31t23:59:60.25-01:30\", \"reached\": true, " ++
    "\"outcome\": \"\\\"\\u0001\"\x7d\x7d"

/-- The same save as it is kept now. -/
def olderSave : Save :=
  .ofList [
    ("Café 🌊", {
      reached := true, outcome := some "\"\x01",
      firstReachedAt := some ⟨⟨12017, 1, 1, by decide⟩, 5399, 1250000000, by decide⟩ }),
    ("Cave", { reached := true }),
    ("Tower", { reached := true, outcome := some "Good-End" })]

theorem exact_codec_olderText :
    decode olderText = .ok olderSave ∧ decode olderSave.encode = .ok olderSave := by
  have hdecode : decode olderText = .ok olderSave := decode_of_toOption (by decide +kernel)
  exact ⟨hdecode, exact_codec.2.2 olderText olderSave hdecode⟩

end Save

end VisualNovel
