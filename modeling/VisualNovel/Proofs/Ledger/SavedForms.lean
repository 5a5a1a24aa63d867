/-
  VisualNovel.Proofs.Ledger.SavedForms

  The forms that saved records may have, and what a save is read from. A record may be
  written in full, with what is unknown left out or null, or as a lone flag or a lone
  tag, as older saves have it (`EndingRecord.Writes`). Saves are read entry by entry
  (`Save.decode_entry_by_entry`): a text is accepted if every member of its object has
  one of these forms, even a member that a later one replaces, and then the last member
  of each name is its record.
-/

import VisualNovel.Ledger.Save
import VisualNovel.Proofs.Json.Records
import VisualNovel.Proofs.Json.Spelling

namespace VisualNovel

open Json (Document)
open NameMap (last?)
open Time (Instant)

/-! ## Records -/

namespace EndingRecord

/-- What an optional field tells: nothing where it is left out or null. -/
inductive Tells {α : Type} (Writes : α → Document → Prop) : Option α → Option Document → Prop
  | absent : Tells Writes none none
  | null : Tells Writes none (some .null)
  | known {a : α} {d : Document} (h : Writes a d) : Tells Writes (some a) (some d)

/-- The text of an outcome's tag. -/
def WritesTag (tag : String) (d : Document) : Prop :=
  d = .text tag

/-- The text of a timestamp for an instant. -/
def WritesInstant (t : Instant) (d : Document) : Prop :=
  ∃ s : String, d = .text s ∧ Instant.ofText s.toList = .ok t

/-- The members of a record. -/
def recordMembers : List String := ["reached", "outcome", "first_reached_at"]

/-- A record in full. -/
structure WritesInFull (r : EndingRecord) (d : Document) : Prop where
  isRecord : d.IsRecord recordMembers
  reached : d.field? "reached" 0 = some (.bool r.reached)
  outcome : Tells WritesTag r.outcome (d.field? "outcome" 1)
  firstReachedAt : Tells WritesInstant r.firstReachedAt (d.field? "first_reached_at" 2)

/-- The forms of a saved record. -/
inductive Writes : EndingRecord → Document → Prop
  /-- A lone flag says nothing but whether the ending was reached. -/
  | flag (b : Bool) : Writes { reached := b } (.bool b)
  /-- A lone tag is the outcome of an ending that was reached. -/
  | tag (t : String) : Writes { reached := true, outcome := some t } (.text t)
  | full {r : EndingRecord} {d : Document} (h : r.WritesInFull d) : Writes r d

variable {r : EndingRecord} {room : Nat} {d : Document}

/-- Reading a timestamp reads its text. -/
theorem readInstant_eq_ok_iff {t : Instant} : readInstant room d = .ok t ↔ WritesInstant t d := by
  constructor
  · intro h
    cases d with
    | string q =>
      cases q with
      | ok s =>
        rw [readInstant] at h
        cases hs : Instant.ofText s.toList with
        | ok t' =>
          rw [hs] at h
          cases h
          exact ⟨s, rfl, hs⟩
        | error e =>
          rw [hs] at h
          cases h
      | error e => cases h
    | _ => cases h
  · rintro ⟨s, rfl, hs⟩
    rw [readInstant, hs]
    rfl

/-- An optional field is read where it is left out, null, or readable. -/
theorem fieldValue_option_eq_some_iff {α : Type} {reader : Json.Reader α} {Writes : α → Document → Prop}
    (hreader : ∀ {d a}, reader room d = .ok a ↔ Writes a d) (hnull : ∀ a, ¬ Writes a .null)
    {field : Option Document} {v : Option α} :
    Json.fieldValue (Json.option reader) room (some none) none field = some v ↔ Tells Writes v field := by
  constructor
  · intro h
    cases field with
    | none =>
      cases h
      exact .absent
    | some d =>
      have hread := Json.toOption_eq_some_iff.1 h
      by_cases hd : d = .null
      · subst hd
        cases hread
        exact .null
      · rw [Json.option_of_ne_null hd] at hread
        obtain ⟨a, ha, rfl⟩ := Json.map_eq_ok_iff.1 hread
        exact .known (hreader.1 ha)
  · intro h
    cases h with
    | absent => rfl
    | null => rfl
    | @known a d h =>
      have hd : d ≠ .null := fun heq => hnull a (heq ▸ h)
      rw [Json.fieldValue, Json.option_of_ne_null hd, hreader.2 h]
      rfl

/-- A record in full is read from what writes it in full. -/
theorem read_eq_ok_iff : read room d = .ok r ↔ 1 < room ∧ r.WritesInFull d := by
  have hreached : ∀ {field : Option Document} {b : Bool},
      Json.fieldValue Json.flag (room - 1) none none field = some b ↔ field = some (.bool b) :=
    Json.fieldValue_required_eq_some_iff Json.flag_eq_ok_iff
  have houtcome : ∀ {field : Option Document} {v : Option String},
      Json.fieldValue (Json.option Json.text) (room - 1) (some none) none field = some v ↔
        Tells WritesTag v field :=
    fieldValue_option_eq_some_iff Json.text_eq_ok_iff fun _ h => by cases h
  have hfirst : ∀ {field : Option Document} {v : Option Instant},
      Json.fieldValue (Json.option readInstant) (room - 1) (some none) none field = some v ↔
        Tells WritesInstant v field := by
    refine fieldValue_option_eq_some_iff readInstant_eq_ok_iff ?_
    rintro t ⟨s, heq, -⟩
    cases heq
  rw [read, Json.record_eq_ok_iff (by decide)]
  simp only [Json.Fields.map_pick_cons, Json.Fields.map_pick_nil, Option.bind_eq_some_iff, hreached,
    houtcome, hfirst, Option.some.injEq]
  constructor
  · rintro ⟨hroom, hrecord, b, hb, outcome, ho, t, ht, rfl⟩
    exact ⟨hroom, hrecord, hb, ho, ht⟩
  · rintro ⟨hroom, hrecord, hb, ho, ht⟩
    exact ⟨hroom, hrecord, r.reached, hb, r.outcome, ho, r.firstReachedAt, ht, rfl⟩

/-- **A saved record is read from any of its forms, and from nothing else.** -/
theorem readSaved_eq_ok_iff : readSaved room d = .ok r ↔ d.Sound room ∧ r.Writes d := by
  rw [readSaved, Json.untagged_eq_ok_iff]
  refine and_congr_right fun hsound => ?_
  constructor
  · intro h
    obtain ⟨reader, hmem, hread⟩ := List.exists_of_findSome?_eq_some h
    rw [Json.toOption_eq_some_iff] at hread
    simp only [List.mem_cons, List.not_mem_nil, or_false] at hmem
    rcases hmem with rfl | rfl | rfl
    · exact .full (read_eq_ok_iff.1 hread).2
    · obtain ⟨b, hb, rfl⟩ := Json.map_eq_ok_iff.1 hread
      obtain rfl := Json.flag_eq_ok_iff.1 hb
      exact .flag b
    · obtain ⟨t, ht, rfl⟩ := Json.map_eq_ok_iff.1 hread
      obtain rfl := Json.text_eq_ok_iff.1 ht
      exact .tag t
  · intro h
    cases h with
    | flag b => rfl
    | tag t => rfl
    | full h =>
      -- The full form is tried first, so no other can come before it.
      have hread := read_eq_ok_iff.2 ⟨Json.one_lt_of_isRecord h.isRecord hsound, h⟩
      rw [Json.firstOf, List.findSome?_cons, hread]
      rfl

/-- A document writes one record only. -/
theorem Writes.unique {r' : EndingRecord} (h : r.Writes d) (hsound : d.Sound room) (h' : r'.Writes d) : r = r' := by
  have hread := readSaved_eq_ok_iff.2 ⟨hsound, h⟩
  rw [readSaved_eq_ok_iff.2 ⟨hsound, h'⟩] at hread
  exact (Except.ok.inj hread).symm

end EndingRecord

/-! ## Saves -/

namespace Save

/-- A save that has the last member of each name, and no other names. -/
structure HasLastOf (s : Save) (ms : List (String × Document)) : Prop where
  contains_iff : ∀ name, s.contains name = true ↔ name ∈ ms.map (·.1)
  get?_eq_some_iff : ∀ name r, s.get? name = some r ↔ ∃ d, last? name ms = some d ∧ r.Writes d

variable {room : Nat} {ms : List (String × Document)} {s : Save} {text : String} {d : Document}

/-- A save is read from an object whose members write records, one by one. -/
theorem read_record_eq_ok_iff (hsound : (Document.record ms).Sound room) :
    read room (.record ms) = .ok s ↔
      ∃ es, List.Forall₂ (fun m e => m.1 = e.1 ∧ e.2.Writes m.2) ms es ∧ s = .ofList es := by
  obtain ⟨hroom, hms⟩ := Json.sound_record_iff.1 hsound
  have hentries : ∀ es : List (String × EndingRecord),
      List.Forall₂ (fun m e => m.1 = e.1 ∧ EndingRecord.readSaved (room - 1) m.2 = .ok e.2) ms es ↔
        List.Forall₂ (fun m e => m.1 = e.1 ∧ e.2.Writes m.2) ms es := by
    intro es
    simp only [EndingRecord.readSaved_eq_ok_iff, and_left_comm (a := _ = _), List.forall₂_and_left,
      and_iff_right hms]
  rw [read, Json.nameMap_eq_ok_iff, and_iff_right hroom]
  constructor
  · rintro ⟨ms', es, heq, hes, rfl⟩
    obtain rfl := Json.named_injective (Document.object.inj heq).1
    exact ⟨es, (hentries es).1 hes, rfl⟩
  · rintro ⟨es, hes, rfl⟩
    exact ⟨ms, es, rfl, (hentries es).2 hes, rfl⟩

/-- A save can be read if every member has the form of a record. -/
theorem exists_read_record_iff (hsound : (Document.record ms).Sound room) :
    (∃ s, read room (.record ms) = .ok s) ↔ ∀ m ∈ ms, ∃ r : EndingRecord, r.Writes m.2 := by
  simp only [read_record_eq_ok_iff hsound]
  constructor
  · rintro ⟨s, es, hes, rfl⟩ m hm
    obtain ⟨e, -, he⟩ := Json.exists_forall₂_iff.1 ⟨es, hes⟩ m hm
    exact ⟨e.2, he⟩
  · intro h
    have hmembers : ∀ m ∈ ms, ∃ e : String × EndingRecord, m.1 = e.1 ∧ e.2.Writes m.2 := by
      intro m hm
      obtain ⟨r, hr⟩ := h m hm
      exact ⟨(m.1, r), rfl, hr⟩
    obtain ⟨es, hes⟩ := Json.exists_forall₂_iff.2 hmembers
    exact ⟨.ofList es, es, hes, rfl⟩

/-- A save that was read has the last member of each name. -/
theorem hasLastOf_of_read (hsound : (Document.record ms).Sound room) (h : read room (.record ms) = .ok s) :
    s.HasLastOf ms := by
  obtain ⟨es, hes, rfl⟩ := (read_record_eq_ok_iff hsound).1 h
  have hrel : ∀ name, Option.Rel (fun d r => EndingRecord.Writes r d) (last? name ms) (last? name es) :=
    NameMap.rel_last? hes
  constructor
  · intro name
    rw [NameMap.contains, NameMap.get?_ofList_eq_last?, ← NameMap.exists_last?_iff]
    have hname := hrel name
    generalize last? name ms = d, last? name es = r at hname
    cases hname with
    | none => simp
    | some _ => simp
  · intro name r
    rw [NameMap.get?_ofList_eq_last?]
    have hname := hrel name
    generalize hd : last? name ms = d, last? name es = r' at hname
    cases hname with
    | none => simp
    | @some d r' hr' =>
      have hmember : d.Sound (room - 1) :=
        (Json.sound_record_iff.1 hsound).2 _ (NameMap.mem_of_last?_eq_some hd)
      constructor
      · intro heq
        cases heq
        exact ⟨d, rfl, hr'⟩
      · rintro ⟨d', heq, hr⟩
        cases heq
        exact congrArg some (hr'.unique hmember hr)

/-- A save is read from its records in any order and in any form. -/
theorem read_of_writtenIn (hsound : (Document.record ms).Sound room) (h : s.WrittenIn EndingRecord.Writes ms) :
    read room (.record ms) = .ok s := by
  obtain ⟨es, hperm, hes⟩ := h
  exact (read_record_eq_ok_iff hsound).2 ⟨es, hes, (NameMap.ofList_of_perm hperm).symm⟩

/--
**Saves are read entry by entry.** Take a text that is JSON within the limits of nesting and numbers.
If it is an object, it can be read just when each of its members, even one that a later one of its
name replaces, has one of the forms of a record; then the save has the names of the object, each
with the record that its last member writes. So a save is read from every object that has each of
its records once, in whatever forms and order. Anything but an object is refused.
-/
theorem decode_entry_by_entry (htext : Document.ofText text.toList = (d, none))
    (hsound : d.Sound Json.maximalRoom) :
    (∀ ms, d = .record ms →
      ((∃ s, decode text = .ok s) ↔ ∀ m ∈ ms, ∃ r : EndingRecord, r.Writes m.2) ∧
      (∀ s, decode text = .ok s → s.HasLastOf ms) ∧
      ∀ s : Save, s.WrittenIn EndingRecord.Writes ms → decode text = .ok s) ∧
    ((∀ ms, d ≠ .record ms) → ∃ problem, decode text = .error problem) := by
  rw [decode, Json.readText_eq htext]
  constructor
  · rintro ms rfl
    exact ⟨exists_read_record_iff hsound, fun s => hasLastOf_of_read hsound, fun s => read_of_writtenIn hsound⟩
  · intro hobject
    cases hread : read Json.maximalRoom d with
    | error problem => exact ⟨problem, rfl⟩
    | ok s =>
      obtain ⟨-, ms, -, rfl, -⟩ := Json.nameMap_eq_ok_iff.1 hread
      exact absurd rfl (hobject ms)

/-- A save with the attic in two forms, a lone flag, and a record with a null and a member of its own. -/
def attic : Json :=
  .object [("Attic", .string "EGG"), ("Cave", .bool true),
    ("Tower", .object [("zoom", .array [.null]), ("outcome", .null), ("reached", .bool false)]),
    ("Attic", .object [("outcome", .string "BAD-END"), ("reached", .bool true)])]

/-- The last form of the attic is the one that counts. -/
theorem decode_entry_by_entry_attic :
    let text := String.ofList (Json.compact attic)
    let ms : List (String × Document) := [("Attic", .text "EGG"), ("Cave", .bool true),
      ("Tower", .record [("zoom", .list [.null]), ("outcome", .null), ("reached", .bool false)]),
      ("Attic", .record [("outcome", .text "BAD-END"), ("reached", .bool true)])]
    let s : Save := .ofList [("Attic", { reached := true, outcome := some "BAD-END" }),
      ("Cave", { reached := true }), ("Tower", {})]
    Document.ofText text.toList = (.record ms, none) ∧ (Document.record ms).Sound Json.maximalRoom ∧
      decode text = .ok s ∧ s.HasLastOf ms := by
  intro text ms s
  have htext : Document.ofText text.toList = (.record ms, none) := by
    rw [String.toList_ofList]
    apply Json.ofText_compact
    simp only [attic, Json.IsPlain, Json.ArePlain, Json.HavePlain, and_true]
  have hsound : (Document.record ms).Sound Json.maximalRoom := Json.exists_value_iff.1 ⟨_, rfl⟩
  have hdecode : decode text = .ok s := by
    rw [decode, Json.readText_eq htext]
    exact Json.toOption_eq_some_iff.1 (by decide +kernel)
  exact ⟨htext, hsound, hdecode, ((decode_entry_by_entry htext hsound).1 ms rfl).2.1 s hdecode⟩

end Save

end VisualNovel
