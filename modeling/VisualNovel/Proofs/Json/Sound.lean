/-
  VisualNovel.Proofs.Json.Sound

  Documents without a fault. In a sound document nothing breaks off, every number is
  in range, and lists and objects are not nested deeper than there is room for; these
  are the documents that have a value (`exists_value_iff`). A value is a document
  again, in which each object has its names in order and the last member of each
  (`Valued`). Readers that take an object for a map read its members one by one
  (`nameMap_eq_ok_iff`).
-/

import VisualNovel.Proofs.Json.Reading
import VisualNovel.Proofs.NameMap

namespace VisualNovel.Json

open NameMap (find? last?)

variable {α : Type} {r : Reader α} {room : Nat}

/-! ## Members -/

theorem items_eq_ok_iff {ds : List Document} {as : List α} :
    items r room ds = .ok as ↔ List.Forall₂ (fun d a => r room d = .ok a) ds as := by
  rw [items_eq_mapM, mapM_eq_ok_iff]

/-- Members are read one by one, each under a name that can be read. -/
theorem members_eq_ok_iff {ms : List (Quoted × Document)} {es : List (String × α)} :
    members r room ms = .ok es ↔
      List.Forall₂ (fun m e => m.1 = .ok e.1 ∧ r room m.2 = .ok e.2) ms es := by
  induction ms generalizing es with
  | nil =>
    rw [members, List.forall₂_nil_left_iff, Except.ok.injEq]
    exact eq_comm
  | cons m ms ih =>
    obtain ⟨key, d⟩ := m
    rw [List.forall₂_cons_left_iff]
    cases key with
    | error e =>
      constructor
      · intro h
        cases h
      · rintro ⟨e', es', ⟨hkey, -⟩, -⟩
        cases hkey
    | ok name =>
      rw [members, bind_eq_ok_iff]
      simp only [map_eq_ok_iff, ih]
      constructor
      · rintro ⟨a, ha, es', hes, rfl⟩
        exact ⟨(name, a), es', ⟨rfl, ha⟩, hes, rfl⟩
      · rintro ⟨⟨name', a⟩, es', ⟨hname, ha⟩, hes, rfl⟩
        cases hname
        exact ⟨a, ha, es', hes, rfl⟩

/-- The members of an object whose names can all be read. -/
abbrev named (ms : List (String × Document)) : List (Quoted × Document) :=
  ms.map fun m => (.ok m.1, m.2)

theorem members_named_eq_ok_iff {ms : List (String × Document)} {es : List (String × α)} :
    members r room (named ms) = .ok es ↔
      List.Forall₂ (fun m e => m.1 = e.1 ∧ r room m.2 = .ok e.2) ms es := by
  rw [members_eq_ok_iff, List.forall₂_map_left_iff]
  simp only [Except.ok.injEq]

/-- Members that were read have names that could be read. -/
theorem exists_named_of_members {ms : List (Quoted × Document)} {es : List (String × α)}
    (h : members r room ms = .ok es) : ∃ ms', ms = named ms' := by
  rw [members_eq_ok_iff] at h
  induction h with
  | nil => exact ⟨[], rfl⟩
  | @cons m e ms es hm _ ih =>
    obtain ⟨ms', rfl⟩ := ih
    obtain ⟨key, d⟩ := m
    obtain ⟨hkey, -⟩ := hm
    cases hkey
    exact ⟨(e.1, d) :: ms', rfl⟩

/-- An object is read as a map, where there is room for it, if each of its members can be read. -/
theorem nameMap_eq_ok_iff {d : Document} {m : NameMap α} :
    map r room d = .ok m ↔ 1 < room ∧ ∃ ms es, d = .record ms ∧
      List.Forall₂ (fun m e => m.1 = e.1 ∧ r (room - 1) m.2 = .ok e.2) ms es ∧ m = .ofList es := by
  constructor
  · intro h
    cases d with
    | object ms tail =>
      rw [map, enter] at h
      split at h
      · cases h
      · next hroom =>
        obtain ⟨es, hes, h⟩ := bind_eq_ok_iff.1 h
        obtain ⟨⟨⟩, htail, rfl⟩ := map_eq_ok_iff.1 h
        obtain ⟨ms', rfl⟩ := exists_named_of_members hes
        cases tail with
        | broken b => cases htail
        | closed => exact ⟨Nat.lt_of_not_le hroom, ms', es, rfl, members_named_eq_ok_iff.1 hes, rfl⟩
    | keyless e =>
      rw [map, enter] at h
      split at h <;> cases h
    | _ => cases h
  · rintro ⟨hroom, ms, es, rfl, hes, rfl⟩
    rw [map, enter, if_neg (Nat.not_le.2 hroom), members_named_eq_ok_iff.2 hes]
    rfl

/-! ## Values -/

theorem values_eq_items (room : Nat) (ds : List Document) : values room ds = items value room ds := by
  induction ds with
  | nil => rfl
  | cons d ds ih => rw [values, items, ih]

theorem memberValues_eq_members (room : Nat) (ms : List (Quoted × Document)) :
    memberValues room ms = members value room ms := by
  induction ms with
  | nil => rfl
  | cons m ms ih =>
    obtain ⟨key, d⟩ := m
    cases key with
    | error e => rfl
    | ok name => rw [memberValues, members, ih]

/-- The value of a list has the values of its items. -/
theorem value_array_eq_ok_iff {ds : List Document} {tail : Tail} {j : Json} :
    value room (.array ds tail) = .ok j ↔ 1 < room ∧ tail = .closed ∧
      ∃ js, List.Forall₂ (fun d j => value (room - 1) d = .ok j) ds js ∧ j = .array js := by
  rw [value, values_eq_items]
  constructor
  · intro h
    split at h
    · cases h
    · next hroom =>
      obtain ⟨js, hjs, h⟩ := bind_eq_ok_iff.1 h
      obtain ⟨⟨⟩, htail, rfl⟩ := map_eq_ok_iff.1 h
      cases tail with
      | broken b => cases htail
      | closed => exact ⟨Nat.lt_of_not_le hroom, rfl, js, items_eq_ok_iff.1 hjs, rfl⟩
  · rintro ⟨hroom, rfl, js, hjs, rfl⟩
    rw [if_neg (Nat.not_le.2 hroom), items_eq_ok_iff.2 hjs]
    rfl

/-- The value of an object has the values of its members, in order and the last of each name. -/
theorem value_object_eq_ok_iff {ms : List (Quoted × Document)} {tail : Tail} {j : Json} :
    value room (.object ms tail) = .ok j ↔ 1 < room ∧ tail = .closed ∧ ∃ ms' js, ms = named ms' ∧
      List.Forall₂ (fun m e => m.1 = e.1 ∧ value (room - 1) m.2 = .ok e.2) ms' js ∧
        j = .object (normalize js) := by
  rw [value, memberValues_eq_members]
  constructor
  · intro h
    split at h
    · cases h
    · next hroom =>
      obtain ⟨js, hjs, h⟩ := bind_eq_ok_iff.1 h
      obtain ⟨⟨⟩, htail, rfl⟩ := map_eq_ok_iff.1 h
      obtain ⟨ms', rfl⟩ := exists_named_of_members hjs
      cases tail with
      | broken b => cases htail
      | closed => exact ⟨Nat.lt_of_not_le hroom, rfl, ms', js, rfl, members_named_eq_ok_iff.1 hjs, rfl⟩
  · rintro ⟨hroom, rfl, ms', js, rfl, hjs, rfl⟩
    rw [if_neg (Nat.not_le.2 hroom), members_named_eq_ok_iff.2 hjs]
    rfl

/-! ## Soundness -/

/-- A document that nothing is wrong with, and that fits into the room for nesting. -/
inductive Document.Sound : Nat → Document → Prop
  | null {room : Nat} : Sound room .null
  | bool {room : Nat} (b : Bool) : Sound room (.bool b)
  | number {room : Nat} (n : Number) : Sound room (.number n)
  | text {room : Nat} (s : String) : Sound room (.text s)
  | list {room : Nat} {ds : List Document} (hroom : 1 < room) (hds : ∀ d ∈ ds, Sound (room - 1) d) :
      Sound room (.list ds)
  | record {room : Nat} {ms : List (String × Document)} (hroom : 1 < room)
      (hms : ∀ m ∈ ms, Sound (room - 1) m.2) : Sound room (.record ms)

theorem sizeOf_lt_array {ds : List Document} {d : Document} (hd : d ∈ ds) (tail : Tail) :
    sizeOf d < sizeOf (Document.array ds tail) := by
  have hlt := List.sizeOf_lt_of_mem hd
  rw [Document.array.sizeOf_spec]
  omega

theorem sizeOf_lt_object {ms : List (Quoted × Document)} {key : Quoted} {d : Document} (hd : (key, d) ∈ ms)
    (tail : Tail) : sizeOf d < sizeOf (Document.object ms tail) := by
  have hlt := List.sizeOf_lt_of_mem hd
  rw [Prod.mk.sizeOf_spec] at hlt
  rw [Document.object.sizeOf_spec]
  omega

/-- What has a value is sound. -/
theorem sound_of_value {room : Nat} : ∀ {d : Document} {j : Json}, value room d = .ok j → d.Sound room
  | .null, _, _ => .null
  | .bool b, _, _ => .bool b
  | .number n, _, _ => .number n
  | .string (.ok s), _, _ => .text s
  | .array ds tail, _, h => by
    obtain ⟨hroom, htail, js, hjs, -⟩ := value_array_eq_ok_iff.1 h
    rw [htail]
    refine .list hroom fun d hd => ?_
    obtain ⟨j, hj⟩ := exists_forall₂_iff.1 ⟨js, hjs⟩ d hd
    exact sound_of_value hj
  | .object ms tail, _, h => by
    obtain ⟨hroom, htail, ms', js, hms, hjs, -⟩ := value_object_eq_ok_iff.1 h
    rw [htail, hms]
    refine .record hroom fun m hm => ?_
    have hmem : (.ok m.1, m.2) ∈ ms := hms ▸ List.mem_map_of_mem hm
    obtain ⟨e, -, he⟩ := exists_forall₂_iff.1 ⟨js, hjs⟩ m hm
    exact sound_of_value he
  | .keyless e, _, h => by
    rw [value] at h
    split at h <;> cases h
  | .hugeNumber, _, h => by cases h
  | .string (.error e), _, h => by cases h
  | .missing e, _, h => by cases h
  | .brokenString b, _, h => by cases h
  | .broken b, _, h => by cases h
termination_by d => sizeOf d
decreasing_by
  · exact sizeOf_lt_array hd tail
  · exact sizeOf_lt_object hmem tail

/-- **The sound documents are those that have a value.** -/
theorem exists_value_iff {room : Nat} {d : Document} : (∃ j, value room d = .ok j) ↔ d.Sound room := by
  constructor
  · rintro ⟨j, h⟩
    exact sound_of_value h
  · intro h
    induction h with
    | null => exact ⟨_, rfl⟩
    | bool b => exact ⟨_, rfl⟩
    | number n => exact ⟨_, rfl⟩
    | text s => exact ⟨_, rfl⟩
    | list hroom _ ih =>
      obtain ⟨js, hjs⟩ := exists_forall₂_iff.2 ih
      exact ⟨_, value_array_eq_ok_iff.2 ⟨hroom, rfl, js, hjs, rfl⟩⟩
    | @record room ms hroom _ ih =>
      have hmembers : ∀ m ∈ ms, ∃ e : String × Json, m.1 = e.1 ∧ value (room - 1) m.2 = .ok e.2 := by
        intro m hm
        obtain ⟨j, hj⟩ := ih m hm
        exact ⟨(m.1, j), rfl, hj⟩
      obtain ⟨js, hjs⟩ := exists_forall₂_iff.2 hmembers
      exact ⟨_, value_object_eq_ok_iff.2 ⟨hroom, rfl, ms, js, rfl, hjs, rfl⟩⟩

/-- Alternatives are tried on sound documents only. -/
theorem untagged_eq_ok_iff {name : String} {rs : List (Reader α)} {d : Document} {a : α} :
    untagged name rs room d = .ok a ↔ d.Sound room ∧ firstOf rs room d = some a := by
  rw [untagged, bind_eq_ok_iff, ← exists_value_iff, ← exists_and_right]
  refine exists_congr fun j => and_congr_right fun _ => ?_
  cases firstOf rs room d with
  | none => simp
  | some a' => simp

/-! ### What soundness is good for -/

theorem skipAll_eq_ok {ds : List Document} (h : ∀ d ∈ ds, d.skip = .ok ()) : skipAll ds = .ok () := by
  induction ds with
  | nil => rfl
  | cons d ds ih =>
    rw [List.forall_mem_cons] at h
    rw [skipAll, h.1]
    exact ih h.2

theorem skipMembers_eq_ok {ms : List (Quoted × Document)} (h : ∀ m ∈ ms, m.2.skip = .ok ()) :
    skipMembers ms = .ok () := by
  induction ms with
  | nil => rfl
  | cons m ms ih =>
    rw [List.forall_mem_cons] at h
    rw [skipMembers, h.1]
    exact ih h.2

/-- What has a counterpart in a list is the counterpart of something. -/
theorem exists_mem_of_forall₂ {β : Type} {R : α → β → Prop} {as : List α} {bs : List β}
    (h : List.Forall₂ R as bs) : (∀ a ∈ as, ∃ b ∈ bs, R a b) ∧ ∀ b ∈ bs, ∃ a ∈ as, R a b := by
  induction h with
  | nil => exact ⟨List.forall_mem_nil _, List.forall_mem_nil _⟩
  | @cons a b as bs hab _ ih =>
    constructor
    · refine List.forall_mem_cons.2 ⟨⟨b, List.mem_cons_self, hab⟩, fun a' ha' => ?_⟩
      obtain ⟨b', hb', hR⟩ := ih.1 a' ha'
      exact ⟨b', List.mem_cons_of_mem _ hb', hR⟩
    · refine List.forall_mem_cons.2 ⟨⟨a, List.mem_cons_self, hab⟩, fun b' hb' => ?_⟩
      obtain ⟨a', ha', hR⟩ := ih.2 b' hb'
      exact ⟨a', List.mem_cons_of_mem _ ha', hR⟩

/-- What is sound can be skipped. -/
theorem Document.Sound.skip_eq_ok {d : Document} (h : d.Sound room) : d.skip = .ok () := by
  induction h with
  | list _ _ ih =>
    rw [skip, skipAll_eq_ok ih]
    rfl
  | record _ _ ih =>
    rw [skip, skipMembers_eq_ok (List.forall_mem_map.2 ih)]
    rfl
  | _ => rfl

theorem sound_list_iff {ds : List Document} :
    (Document.list ds).Sound room ↔ 1 < room ∧ ∀ d ∈ ds, d.Sound (room - 1) := by
  constructor
  · intro h
    cases h with
    | list hroom hds => exact ⟨hroom, hds⟩
  · rintro ⟨hroom, hds⟩
    exact .list hroom hds

theorem named_injective {ms ms' : List (String × Document)} (h : named ms = named ms') : ms = ms' := by
  refine List.map_injective_iff.2 ?_ h
  rintro ⟨name, d⟩ ⟨name', d'⟩ heq
  cases heq
  rfl

theorem sound_record_iff {ms : List (String × Document)} :
    (Document.record ms).Sound room ↔ 1 < room ∧ ∀ m ∈ ms, m.2.Sound (room - 1) := by
  constructor
  · intro h
    generalize hd : Document.record ms = d at h
    cases h with
    | record hroom hms =>
      obtain rfl := named_injective (Document.object.inj hd).1
      exact ⟨hroom, hms⟩
    | _ => cases hd
  · rintro ⟨hroom, hms⟩
    exact .record hroom hms

/-! ## Documents of values -/

/-- The second document is that of the value of the first one. -/
def Valued (room : Nat) (d e : Document) : Prop :=
  ∃ j, value room d = .ok j ∧ e = j.toDocument

namespace Valued

variable {d e : Document}

theorem sound_left (h : Valued room d e) : d.Sound room := by
  obtain ⟨j, hj, -⟩ := h
  exact sound_of_value hj

theorem of_array {ds : List Document} {tail : Tail} (h : Valued room (.array ds tail) e) :
    1 < room ∧ tail = .closed ∧ ∃ es, List.Forall₂ (Valued (room - 1)) ds es ∧ e = .list es := by
  obtain ⟨j, hj, rfl⟩ := h
  obtain ⟨hroom, rfl, js, hjs, rfl⟩ := value_array_eq_ok_iff.1 hj
  refine ⟨hroom, rfl, js.map toDocument, ?_, ?_⟩
  · rw [List.forall₂_map_right_iff]
    exact hjs.imp fun d j hj => ⟨j, hj, rfl⟩
  · rw [toDocument, toDocuments_eq_map]

/-- An object has a map for its value: under each name the value of the last member. -/
theorem of_object {ms : List (Quoted × Document)} {tail : Tail} (h : Valued room (.object ms tail) e) :
    1 < room ∧ tail = .closed ∧ ∃ (ms' : List (String × Document)) (es : NameMap Document), ms = named ms' ∧
      e = .record es.entries ∧ ∀ name, Option.Rel (Valued (room - 1)) (last? name ms') (es.get? name) := by
  obtain ⟨j, hj, rfl⟩ := h
  obtain ⟨hroom, rfl, ms', js, rfl, hjs, rfl⟩ := value_object_eq_ok_iff.1 hj
  refine ⟨hroom, rfl, ms', (NameMap.ofList js).map toDocument, rfl, ?_, ?_⟩
  · rw [toDocument, toMembers_eq_map, normalize, Document.record, NameMap.map]
    simp only [List.map_map, Function.comp_def]
  · intro name
    rw [NameMap.get?_map, NameMap.get?_ofList_eq_last?]
    have hlast := NameMap.rel_last? (R := fun d j => value (room - 1) d = .ok j) hjs name
    generalize last? name ms' = d, last? name js = j at hlast
    cases hlast with
    | none => exact .none
    | some h => exact .some ⟨_, h, rfl⟩

/-- A value that is neither a list nor an object is its own document. -/
theorem eq_or_compound (h : Valued room d e) :
    d = e ∨ (∃ ds es, d = .list ds ∧ e = .list es) ∨ ∃ ms es, d = .record ms ∧ e = .record es := by
  have hsound := h.sound_left
  cases hsound with
  | list _ _ =>
    obtain ⟨-, -, es, -, rfl⟩ := h.of_array
    exact .inr (.inl ⟨_, es, rfl, rfl⟩)
  | record _ _ =>
    obtain ⟨-, -, -, es, -, rfl, -⟩ := h.of_object
    exact .inr (.inr ⟨_, es.entries, rfl, rfl⟩)
  | _ =>
    obtain ⟨j, hj, rfl⟩ := h
    cases hj
    exact .inl rfl

/-- A value that is neither a list nor an object is that of one document only. -/
theorem eq_iff_of_plain (h : Valued room d e) {plain : Document} (hlist : ∀ ds, plain ≠ .list ds)
    (hrecord : ∀ ms, plain ≠ .record ms) : e = plain ↔ d = plain := by
  rcases h.eq_or_compound with rfl | ⟨ds, es, rfl, rfl⟩ | ⟨ms, es, rfl, rfl⟩
  · rfl
  · exact iff_of_false (fun h => hlist es h.symm) (fun h => hlist ds h.symm)
  · exact iff_of_false (fun h => hrecord es h.symm) (fun h => hrecord ms h.symm)

theorem eq_text_iff (h : Valued room d e) {s : String} : e = .text s ↔ d = .text s :=
  h.eq_iff_of_plain (fun _ h => by cases h) (fun _ h => by cases h)

theorem eq_bool_iff (h : Valued room d e) {b : Bool} : e = .bool b ↔ d = .bool b :=
  h.eq_iff_of_plain (fun _ h => by cases h) (fun _ h => by cases h)

/-- The document of a value is sound, too. -/
theorem sound_right (h : Valued room d e) : e.Sound room := by
  have hd := h.sound_left
  induction hd generalizing e with
  | null =>
    obtain ⟨j, hj, rfl⟩ := h
    cases hj
    exact .null
  | bool b =>
    obtain ⟨j, hj, rfl⟩ := h
    cases hj
    exact .bool b
  | number n =>
    obtain ⟨j, hj, rfl⟩ := h
    cases hj
    exact .number n
  | text s =>
    obtain ⟨j, hj, rfl⟩ := h
    cases hj
    exact .text s
  | list hroom _ ih =>
    obtain ⟨-, -, es, hes, rfl⟩ := h.of_array
    refine .list hroom fun e he => ?_
    obtain ⟨d, hd, hvalued⟩ := (exists_mem_of_forall₂ hes).2 e he
    exact ih d hd hvalued
  | record hroom _ ih =>
    obtain ⟨-, -, ms', es, hms, rfl, hes⟩ := h.of_object
    obtain rfl := named_injective hms
    refine .record hroom fun m hm => ?_
    have hentry := hes m.1
    rw [NameMap.get?_eq_some_iff.2 hm] at hentry
    generalize hlast : last? m.1 _ = o at hentry
    cases hentry with
    | some hvalued => exact ih _ (NameMap.mem_of_last?_eq_some hlast) hvalued

end Valued

end VisualNovel.Json
