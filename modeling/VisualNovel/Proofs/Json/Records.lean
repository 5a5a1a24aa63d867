/-
  VisualNovel.Proofs.Json.Records

  Which documents are read as a structure (`record_eq_ok_iff`): objects in which no
  field stands twice and what is no field can be skipped, and lists without items to
  spare, if the fields that are picked from them come to something. An object that
  repeats a field is the one thing that is refused in a text though its value is taken
  (`isRecord_iff_of_valued`), since a value keeps the last member of each name only.
-/

import VisualNovel.Proofs.Json.Sound

namespace VisualNovel.Json

open NameMap (find? last?)

variable {α : Type} {ts : List Type} {room : Nat}

namespace Fields

variable {key : String} {d : Document} {ms : List (Quoted × Document)} {fields : Fields ts}
  {slots slots' : Slots ts}

/-! ## What was put into a field -/

theorem vacant_of_not_mem (h : key ∉ fields.names) (slots : Slots ts) : fields.Vacant key slots := by
  induction fields with
  | nil => trivial
  | cons name r absent rest ih =>
    obtain ⟨slot, slots⟩ := slots
    rw [names_cons, List.mem_cons, not_or] at h
    exact ⟨fun hname => absurd hname.symm h.1, ih h.2 slots⟩

/-- A member is put into a field that was vacant and is not any more; no other field becomes vacant. -/
theorem vacant_of_put (hnames : fields.names.Nodup) (h : fields.put room key d slots = some (.ok slots')) :
    fields.Vacant key slots ∧ ¬ fields.Vacant key slots' ∧
      ∀ other, fields.Vacant other slots' → fields.Vacant other slots := by
  induction fields with
  | nil => cases h
  | cons name r absent rest ih =>
    obtain ⟨slot, slots⟩ := slots
    obtain ⟨slot', slots'⟩ := slots'
    rw [names_cons, List.nodup_cons] at hnames
    rw [put_cons] at h
    split at h
    · next hkey =>
      subst hkey
      cases slot with
      | some a => cases h
      | none =>
        obtain ⟨a, -, heq⟩ := map_eq_ok_iff.1 (Option.some.inj h)
        cases heq
        refine ⟨⟨fun _ => rfl, vacant_of_not_mem hnames.1 slots⟩, ?_, ?_⟩
        · intro hvacant
          cases hvacant.1 rfl
        · intro other hvacant
          exact ⟨fun _ => rfl, hvacant.2⟩
    · next hkey =>
      obtain ⟨result, hput, hresult⟩ := Option.map_eq_some_iff.1 h
      obtain ⟨slots'', rfl, heq⟩ := map_eq_ok_iff.1 hresult
      cases heq
      obtain ⟨hvacant, hfilled, hothers⟩ := ih hnames.2 hput
      refine ⟨⟨fun hname => absurd hname.symm hkey, hvacant⟩, fun h => hfilled h.2, ?_⟩
      intro other h
      exact ⟨h.1, hothers other h.2⟩

/-- Members that were gathered are in good order, and found their fields vacant. -/
theorem wellFormed_of_gather (hnames : fields.names.Nodup) (h : fields.gather room ms slots = .ok slots') :
    WellFormed fields.names ms ∧ ∀ m ∈ ms, ∀ name, m.1 = .ok name → fields.Vacant name slots := by
  induction ms generalizing slots with
  | nil => exact ⟨⟨by simp, .nil, by simp⟩, by simp⟩
  | cons m ms ih =>
    obtain ⟨key, d⟩ := m
    cases key with
    | error e => cases h
    | ok key =>
      rw [gather] at h
      cases hput : fields.put room key d slots with
      | none =>
        -- No field has the name, so the member is skipped.
        rw [hput] at h
        obtain ⟨⟨⟩, hskip, h⟩ := bind_eq_ok_iff.1 h
        have hkey : key ∉ fields.names := put_eq_none_iff.1 hput
        obtain ⟨⟨hnamed, honce, hskipped⟩, hvacant⟩ := ih h
        refine ⟨⟨?_, ?_, ?_⟩, ?_⟩
        · exact List.forall_mem_cons.2 ⟨⟨key, rfl⟩, hnamed⟩
        · refine List.pairwise_cons.2 ⟨fun m _ name hname heq => ?_, honce⟩
          exact absurd (Except.ok.inj heq ▸ hname) hkey
        · exact List.forall_mem_cons.2 ⟨fun _ => hskip, hskipped⟩
        · refine List.forall_mem_cons.2 ⟨fun name hname => ?_, hvacant⟩
          exact vacant_of_not_mem (Except.ok.inj hname ▸ hkey) slots
      | some result =>
        rw [hput] at h
        obtain ⟨slots₁, rfl, h⟩ := bind_eq_ok_iff.1 h
        obtain ⟨hfound, hfilled, hothers⟩ := vacant_of_put hnames hput
        obtain ⟨⟨hnamed, honce, hskipped⟩, hvacant⟩ := ih h
        refine ⟨⟨?_, ?_, ?_⟩, ?_⟩
        · exact List.forall_mem_cons.2 ⟨⟨key, rfl⟩, hnamed⟩
        · -- A second member would have found the field filled.
          refine List.pairwise_cons.2 ⟨fun m hm name _ heq hsecond => ?_, honce⟩
          exact hfilled (Except.ok.inj heq ▸ hvacant m hm name hsecond)
        · refine List.forall_mem_cons.2 ⟨fun hunknown => ?_, hskipped⟩
          have hkey : key ∈ fields.names := by
            by_contra hkey
            rw [put_eq_none_iff.2 hkey] at hput
            cases hput
          exact absurd rfl (hunknown key hkey)
        · refine List.forall_mem_cons.2 ⟨fun name hname => ?_, fun m hm name hname => ?_⟩
          · exact Except.ok.inj hname ▸ hfound
          · exact hothers name (hvacant m hm name hname)

/-- Fields that were read from items account for all but those that are left. -/
theorem length_of_fromItems {expected : String} {place : Nat} {tail : Tail} {ds left : List Document}
    {row : Row ts} (h : fromItems room expected place tail fields ds = .ok (row, left)) :
    ds.length ≤ fields.names.length + left.length := by
  induction fields generalizing place ds with
  | nil =>
    cases h
    omega
  | cons name r absent rest ih =>
    cases ds with
    | nil => exact Nat.zero_le _
    | cons d ds =>
      obtain ⟨a, -, h⟩ := bind_eq_ok_iff.1 h
      obtain ⟨⟨row', left'⟩, hrest, heq⟩ := map_eq_ok_iff.1 h
      cases heq
      have hle := ih hrest
      rw [names_cons, List.length_cons, List.length_cons]
      omega

end Fields

/-! ## What is read as a structure -/

variable {fields : Fields ts} {what : String} {make : Row ts → α} {d : Document}

/-- What was read as a structure is an object in good order or a list without items to spare. -/
theorem isRecord_of_record (hnames : fields.names.Nodup) {a : α} (h : record what fields make room d = .ok a) :
    d.IsRecord fields.names := by
  cases d with
  | object ms tail =>
    rw [record, enter] at h
    split at h
    · cases h
    · obtain ⟨slots, hgather, h⟩ := bind_eq_ok_iff.1 h
      obtain ⟨⟨⟩, htail, -⟩ := bind_eq_ok_iff.1 h
      cases tail with
      | broken b => cases htail
      | closed => exact .object (Fields.wellFormed_of_gather hnames hgather).1
  | array ds tail =>
    rw [record, enter] at h
    split at h
    · cases h
    · obtain ⟨⟨row, left⟩, hitems, h⟩ := bind_eq_ok_iff.1 h
      cases left with
      | cons d ds' => cases h
      | nil =>
        obtain ⟨⟨⟩, htail, -⟩ := map_eq_ok_iff.1 h
        cases tail with
        | broken b =>
          rw [Tail.afterLast] at htail
          split at htail <;> cases htail
        | closed => exact .list (Fields.length_of_fromItems hitems)
  | keyless e =>
    rw [record, enter] at h
    split at h <;> cases h
  | _ => cases h

/-- **What a structure is read from, and what it is read as.** -/
theorem record_eq_ok_iff (hnames : fields.names.Nodup) {a : α} :
    record what fields make room d = .ok a ↔
      1 < room ∧ d.IsRecord fields.names ∧ (fields.pick (room - 1) d 0).map make = some a := by
  rw [← toOption_eq_some_iff]
  constructor
  · intro h
    have hd := isRecord_of_record hnames (toOption_eq_some_iff.1 h)
    rw [toOption_record rfl hnames hd] at h
    split at h
    · cases h
    · next hroom => exact ⟨Nat.lt_of_not_le hroom, hd, h⟩
  · rintro ⟨hroom, hd, hpick⟩
    rw [toOption_record rfl hnames hd, if_neg (Nat.not_le.2 hroom), hpick]

theorem one_lt_of_isRecord {known : List String} (hd : d.IsRecord known) (h : d.Sound room) : 1 < room := by
  cases hd with
  | object _ =>
    cases h with
    | record hroom _ => exact hroom
  | list _ => exact (sound_list_iff.1 h).1

/-! ## Fields that stand twice -/

/-- An object in which one of the known names stands twice. -/
def Document.Repeats (known : List String) (d : Document) : Prop :=
  ∃ ms tail, d = .object ms tail ∧ ∃ name ∈ known, ∃ a b, [(.ok name, a), (.ok name, b)].Sublist ms

variable {known : List String} {e : Document}

theorem not_repeats_of_isRecord (h : d.IsRecord known) : ¬ d.Repeats known := by
  rintro ⟨ms, tail, rfl, name, hname, a, b, hsublist⟩
  cases h with
  | object hms => exact List.pairwise_iff_forall_sublist.1 hms.once hsublist name hname rfl rfl

/-- A sound object in which no field stands twice is in good order. -/
theorem wellFormed_of_not_repeats {ms : List (String × Document)} (hms : ∀ m ∈ ms, m.2.Sound room)
    (h : ¬ (Document.record ms).Repeats known) : WellFormed known (named ms) := by
  refine ⟨List.forall_mem_map.2 fun m _ => ⟨m.1, rfl⟩, ?_, List.forall_mem_map.2 fun m hm _ => (hms m hm).skip_eq_ok⟩
  rw [List.pairwise_iff_forall_sublist]
  rintro ⟨key, a⟩ ⟨key', b⟩ hsublist name hname rfl rfl
  exact h ⟨_, _, rfl, name, hname, a, b, hsublist⟩

/-- In the object of a map no name stands twice. -/
theorem not_repeats_entries (m : NameMap Document) : ¬ (Document.record m.entries).Repeats known := by
  rintro ⟨ms, tail, heq, name, -, a, b, hsublist⟩
  obtain ⟨rfl, -⟩ := Document.object.inj heq
  have hascending : (named m.entries).Pairwise fun m n => m.1 ≠ n.1 := by
    rw [List.pairwise_map]
    apply m.ascending.imp
    intro e f hlt heq
    exact String.lt_irrefl _ (Except.ok.inj heq ▸ hlt)
  exact List.pairwise_iff_forall_sublist.1 hascending hsublist rfl

/-- The object of a map is in good order whatever the fields are. -/
theorem isRecord_entries {m : NameMap Document} (h : (Document.record m.entries).Sound room) :
    (Document.record m.entries).IsRecord known :=
  .object (wellFormed_of_not_repeats (sound_record_iff.1 h).2 (not_repeats_entries m))

/-- **What a value is taken for is taken from the document, too, unless it repeats a field.** -/
theorem isRecord_iff_of_valued (h : Valued room d e) :
    d.IsRecord known ↔ e.IsRecord known ∧ ¬ d.Repeats known := by
  have hsound := h.sound_left
  cases hsound with
  | list hroom hds =>
    obtain ⟨-, -, es, hes, rfl⟩ := h.of_array
    constructor
    · intro hd
      refine ⟨?_, not_repeats_of_isRecord hd⟩
      cases hd with
      | list hlength => exact .list (hes.length_eq ▸ hlength)
    · rintro ⟨he, -⟩
      cases he with
      | list hlength => exact .list (hes.length_eq ▸ hlength)
  | record hroom hms =>
    have hsound := h.sound_right
    obtain ⟨-, -, ms, es, -, rfl, -⟩ := h.of_object
    constructor
    · intro hd
      exact ⟨isRecord_entries hsound, not_repeats_of_isRecord hd⟩
    · rintro ⟨-, hd⟩
      exact .object (wellFormed_of_not_repeats hms hd)
  | _ =>
    -- Neither an object nor a list, and its value is the same.
    obtain ⟨j, hj, rfl⟩ := h
    cases hj
    constructor
    · intro hd
      cases hd
    · rintro ⟨he, -⟩
      cases he

/-! ## Fields of values -/

theorem member?_named (name : String) (ms : List (String × Document)) :
    member? name (named ms) = find? name ms := by
  induction ms with
  | nil => rfl
  | cons m ms ih =>
    obtain ⟨key, d⟩ := m
    rw [named, List.map_cons, member?, find?, ih]

theorem rel_getElem? {β : Type} {R : α → β → Prop} {as : List α} {bs : List β} (h : List.Forall₂ R as bs)
    (index : Nat) : Option.Rel R as[index]? bs[index]? := by
  induction h generalizing index with
  | nil => exact .none
  | cons hab _ ih =>
    cases index with
    | zero => exact .some hab
    | succ index => exact ih index

/-- A field of a value has the value of that field. -/
theorem rel_field?_of_valued (h : Valued room d e) (hd : d.IsRecord known) {name : String}
    (hname : name ∈ known) (index : Nat) :
    Option.Rel (Valued (room - 1)) (d.field? name index) (e.field? name index) := by
  cases hd with
  | object hms =>
    obtain ⟨-, -, ms, es, rfl, rfl, hes⟩ := h.of_object
    have honce : ms.Pairwise fun m n => m.1 = name → n.1 ≠ name := by
      refine (List.pairwise_map.1 hms.once).imp fun hmn hm hn => ?_
      exact hmn name hname (congrArg _ hm) (congrArg _ hn)
    have hfield := hes name
    rw [NameMap.last?_eq_find? honce] at hfield
    rw [Document.field?, Document.field?, member?_named, member?_named]
    exact hfield
  | list hlength =>
    obtain ⟨-, -, es, hes, rfl⟩ := h.of_array
    exact rel_getElem? hes index

end VisualNovel.Json
