/-
  VisualNovel.Proofs.Json.Rereading

  Reading a document and reading its value. A value keeps less than the document that it
  was taken from: the order of members is lost, and of several members of one name only
  the last is left. Readers do not care, or they care for one kind of flaw only and refuse
  what has it (`MindsOnly`). For a structure the flaw is that a field stands twice
  (`mindsOnly_record`); lists and structures have the flaws of what is in them, too.
-/

import VisualNovel.Proofs.Json.Records

namespace VisualNovel.Json

variable {α β : Type} {ts : List Type} {room : Nat} {d e : Document} {r : Reader α}
  {flaw flaw' : Document → Prop}

/-- The items of a list. -/
def Document.items : Document → List Document
  | .array ds _ => ds
  | _ => []

/-- What is no flaw at all. -/
def noFlaw (_ : Document) : Prop := False

/-- A reader reads a document as it reads the document's value, but refuses it if it has a flaw. -/
def MindsOnly (flaw : Document → Prop) (r : Reader α) : Prop :=
  ∀ ⦃room : Nat⦄ ⦃d e : Document⦄, Valued room d e → ∀ a, r room d = .ok a ↔ r room e = .ok a ∧ ¬ flaw d

namespace MindsOnly

theorem congr (h : MindsOnly flaw r) (hflaw : ∀ d, flaw d ↔ flaw' d) : MindsOnly flaw' r := by
  intro room d e hvalued a
  rw [h hvalued a, hflaw]

theorem iff_of_noFlaw (h : MindsOnly noFlaw r) (hvalued : Valued room d e) (a : α) :
    r room d = .ok a ↔ r room e = .ok a := by
  rw [h hvalued a]
  exact and_iff_left not_false

theorem of_iff (h : ∀ ⦃room : Nat⦄ ⦃d e : Document⦄, Valued room d e → ∀ a, r room d = .ok a ↔ r room e = .ok a) :
    MindsOnly noFlaw r := by
  intro room d e hvalued a
  rw [h hvalued a]
  exact (and_iff_left not_false).symm

/-- What is made of what was read does not matter. -/
theorem map (h : MindsOnly flaw r) (f : α → β) : MindsOnly flaw fun room d => (r room d).map f := by
  intro room d e hvalued b
  simp only [map_eq_ok_iff, h hvalued, and_right_comm, exists_and_right]

end MindsOnly

/-! ## Plain values -/

/-- A reader that refuses lists and objects reads nothing else than the value. -/
theorem mindsOnly_of_plain (hlist : ∀ room ds a, r room (.list ds) ≠ .ok a)
    (hrecord : ∀ room ms a, r room (.record ms) ≠ .ok a) : MindsOnly noFlaw r := by
  apply MindsOnly.of_iff
  intro room d e hvalued a
  rcases hvalued.eq_or_compound with rfl | ⟨ds, es, rfl, rfl⟩ | ⟨ms, es, rfl, rfl⟩
  · rfl
  · exact iff_of_false (hlist room ds a) (hlist room es a)
  · exact iff_of_false (hrecord room ms a) (hrecord room es a)

theorem mindsOnly_text : MindsOnly noFlaw text :=
  mindsOnly_of_plain (fun _ _ _ h => by cases h) (fun _ _ _ h => by cases h)

theorem mindsOnly_word : MindsOnly noFlaw word :=
  mindsOnly_of_plain (fun _ _ _ h => by cases h) (fun _ _ _ h => by cases h)

/-! ## Alternatives and options -/

theorem mindsOnly_option (h : MindsOnly noFlaw r) : MindsOnly noFlaw (option r) := by
  apply MindsOnly.of_iff
  intro room d e hvalued a
  have hmap : (r room d).map some = .ok a ↔ (r room e).map some = .ok a := by
    simp only [map_eq_ok_iff, h.iff_of_noFlaw hvalued]
  rcases hvalued.eq_or_compound with rfl | ⟨ds, es, rfl, rfl⟩ | ⟨ms, es, rfl, rfl⟩
  · rfl
  · exact hmap
  · exact hmap

theorem firstOf_eq {rs : List (Reader α)} (h : ∀ r ∈ rs, MindsOnly noFlaw r) (hvalued : Valued room d e) :
    firstOf rs room d = firstOf rs room e := by
  induction rs with
  | nil => rfl
  | cons r rs ih =>
    obtain ⟨hr, hrs⟩ := List.forall_mem_cons.1 h
    -- The readers may fail for different reasons, but the reasons are not looked at.
    have hfirst : (r room d).toOption = (r room e).toOption := by
      apply Option.ext
      intro a
      rw [toOption_eq_some_iff, toOption_eq_some_iff, hr.iff_of_noFlaw hvalued]
    have hrest := ih hrs
    rw [firstOf, firstOf] at hrest ⊢
    rw [List.findSome?_cons, List.findSome?_cons, hfirst, hrest]

theorem mindsOnly_untagged {name : String} {rs : List (Reader α)} (h : ∀ r ∈ rs, MindsOnly noFlaw r) :
    MindsOnly noFlaw (untagged name rs) := by
  apply MindsOnly.of_iff
  intro room d e hvalued a
  rw [untagged_eq_ok_iff, untagged_eq_ok_iff, firstOf_eq h hvalued, and_iff_right hvalued.sound_left,
    and_iff_right hvalued.sound_right]

/-! ## Lists -/

/-- Items that have values are read as their values are, if none of them has the flaw. -/
theorem MindsOnly.items_iff (h : MindsOnly flaw r) {ds es : List Document}
    (hvalued : List.Forall₂ (Valued room) ds es) {as : List α} :
    items r room ds = .ok as ↔ items r room es = .ok as ∧ ¬ ∃ d ∈ ds, flaw d := by
  induction hvalued generalizing as with
  | nil => simp
  | @cons d e ds es hd _ ih =>
    simp only [items, bind_eq_ok_iff, map_eq_ok_iff, h hd, ih, List.exists_mem_cons_iff, not_or]
    constructor
    · rintro ⟨a, ⟨ha, hflaw⟩, as', ⟨has, hflaws⟩, rfl⟩
      exact ⟨⟨a, ha, as', has, rfl⟩, hflaw, hflaws⟩
    · rintro ⟨⟨a, ha, as', has, rfl⟩, hflaw, hflaws⟩
      exact ⟨a, ⟨ha, hflaw⟩, as', ⟨has, hflaws⟩, rfl⟩

/-- A list has the flaws of its items. -/
theorem mindsOnly_list (h : MindsOnly flaw r) : MindsOnly (fun d => ∃ i ∈ d.items, flaw i) (list r) := by
  intro room d e hvalued as
  cases hvalued.sound_left with
  | @list _ ds hroom _ =>
    obtain ⟨-, -, es, hes, rfl⟩ := hvalued.of_array
    rw [list_eq_ok_iff, list_eq_ok_iff, and_iff_right hroom, and_iff_right hroom]
    constructor
    · rintro ⟨ds', heq, hitems⟩
      obtain ⟨rfl, -⟩ := Document.array.inj heq
      obtain ⟨hitems, hflaw⟩ := (h.items_iff hes).1 hitems
      exact ⟨⟨es, rfl, hitems⟩, hflaw⟩
    · rintro ⟨⟨es', heq, hitems⟩, hflaw⟩
      obtain ⟨rfl, -⟩ := Document.array.inj heq
      exact ⟨ds, rfl, (h.items_iff hes).2 ⟨hitems, hflaw⟩⟩
  | record _ _ =>
    obtain ⟨-, -, -, es, -, rfl, -⟩ := hvalued.of_object
    exact iff_of_false (fun h => by cases h) (fun h => by cases h.1)
  | _ =>
    -- Neither an object nor a list, and its value is the same.
    obtain ⟨j, hj, rfl⟩ := hvalued
    cases hj
    exact iff_of_false (fun h => by cases h) (fun h => by cases h.1)

/-- Lists have no flaws if their items have none. -/
theorem mindsOnly_list_of_noFlaw (h : MindsOnly noFlaw r) : MindsOnly noFlaw (list r) := by
  apply (mindsOnly_list h).congr
  intro d
  simp [noFlaw]

/-! ## Structures -/

/-- A flaw in the field of some name; the other fields have none. -/
def flawOf (name : String) (flaw : Document → Prop) (key : String) (d : Document) : Prop :=
  key = name ∧ flaw d

theorem MindsOnly.flawOf_self (h : MindsOnly flaw r) (name : String) : MindsOnly (flawOf name flaw name) r :=
  h.congr fun _ => (and_iff_right rfl).symm

theorem MindsOnly.flawOf_other (h : MindsOnly noFlaw r) {name key : String} (hkey : key ≠ name)
    (flaw : Document → Prop) : MindsOnly (flawOf name flaw key) r :=
  h.congr fun _ => iff_of_false not_false fun hflaw => hkey hflaw.1

/-- The readers of the fields mind only the flaws that go with the names of the fields. -/
def Fields.MindOnly (flaw : String → Document → Prop) : {ts : List Type} → Fields ts → Prop
  | _, .nil => True
  | _, .cons name r _ rest => MindsOnly (flaw name) r ∧ rest.MindOnly flaw

/-- A field has a flaw. Fields are found by their names or by their places, from some place on. -/
def FieldFlaw (flaw : String → Document → Prop) (names : List String) (index : Nat) (d : Document) : Prop :=
  ∃ field ∈ names.zipIdx index, ∃ m ∈ d.field? field.1 field.2, flaw field.1 m

/-- What a field comes to is what it comes to in the value, unless it has the flaw. -/
theorem MindsOnly.fieldValue_iff (h : MindsOnly flaw r) {m n : Option Document}
    (hvalued : Option.Rel (Valued room) m n) {absent : Option α} {a : α} :
    fieldValue r room absent none m = some a ↔
      fieldValue r room absent none n = some a ∧ ¬ ∃ d ∈ m, flaw d := by
  cases hvalued with
  | none => simp
  | @some d e hd =>
    simp only [fieldValue, toOption_eq_some_iff, h hd, Option.mem_some_iff, exists_eq_left']

theorem Fields.pick_cons_eq_some_iff {name : String} {absent : Option α} {rest : Fields ts} {index : Nat}
    {row : Row (α :: ts)} :
    (Fields.cons name r absent rest).pick room d index = some row ↔
      fieldValue r room absent none (d.field? name index) = some row.1 ∧
        rest.pick room d (index + 1) = some row.2 := by
  constructor
  · intro h
    obtain ⟨a, ha, h⟩ := Option.bind_eq_some_iff.1 h
    obtain ⟨row', hrow, rfl⟩ := Option.map_eq_some_iff.1 h
    exact ⟨ha, hrow⟩
  · rintro ⟨ha, hrow⟩
    rw [pick_cons, ha, hrow]
    rfl

theorem Fields.MindOnly.pick_iff {fields : Fields ts} {flaw : String → Document → Prop}
    (h : fields.MindOnly flaw) (index : Nat)
    (hvalued : ∀ name ∈ fields.names, ∀ index, Option.Rel (Valued room) (d.field? name index) (e.field? name index))
    (row : Row ts) :
    fields.pick room d index = some row ↔
      fields.pick room e index = some row ∧ ¬ FieldFlaw flaw fields.names index d := by
  induction fields generalizing index with
  | nil => simp [pick, FieldFlaw]
  | cons name r absent rest ih =>
    obtain ⟨hfield, hrest⟩ := h
    rw [names_cons, List.forall_mem_cons] at hvalued
    rw [pick_cons_eq_some_iff, pick_cons_eq_some_iff, hfield.fieldValue_iff (hvalued.1 index),
      ih hrest _ hvalued.2, FieldFlaw, FieldFlaw, names_cons, List.zipIdx_cons, List.exists_mem_cons_iff, not_or,
      and_and_and_comm]

/--
**A structure is read from a document as from its value**, unless the document repeats one of its
fields, or a field has a flaw of its own.
-/
theorem mindsOnly_record {what : String} {fields : Fields ts} {make : Row ts → α}
    (flaw : String → Document → Prop) (hnames : fields.names.Nodup) (h : fields.MindOnly flaw) :
    MindsOnly (fun d => d.Repeats fields.names ∨ FieldFlaw flaw fields.names 0 d) (record what fields make) := by
  intro room d e hvalued a
  rw [record_eq_ok_iff hnames, record_eq_ok_iff hnames, not_or]
  simp only [Option.map_eq_some_iff]
  constructor
  · rintro ⟨hroom, hd, row, hpick, hmake⟩
    obtain ⟨he, hrepeats⟩ := (isRecord_iff_of_valued hvalued).1 hd
    obtain ⟨hpick, hflaw⟩ :=
      (h.pick_iff 0 (fun name hname => rel_field?_of_valued hvalued hd hname) row).1 hpick
    exact ⟨⟨hroom, he, row, hpick, hmake⟩, hrepeats, hflaw⟩
  · rintro ⟨⟨hroom, he, row, hpick, hmake⟩, hrepeats, hflaw⟩
    -- Without a repetition the first member of a field is the last one, which is the one in the value.
    have hd := (isRecord_iff_of_valued hvalued).2 ⟨he, hrepeats⟩
    have hpick := (h.pick_iff 0 (fun name hname => rel_field?_of_valued hvalued hd hname) row).2 ⟨hpick, hflaw⟩
    exact ⟨hroom, hd, row, hpick, hmake⟩

end VisualNovel.Json
