/-
  VisualNovel.Proofs.Json.Reading

  What readers make of a document. A list is read item by item
  (`list_eq_ok_iff`), and a structure field by field: a reader goes through the
  members of an object and puts each into its field, but what comes of it depends
  only on the member that each field has (`Fields.pick`), not on the order of the
  members nor on members that are no fields (`toOption_record`).
-/

import Mathlib.Data.List.Forall2
import Mathlib.Data.List.Perm.Basic
import VisualNovel.Json.Reader

namespace VisualNovel.Json

variable {α β : Type} {ts : List Type} {room : Nat}

theorem toOption_eq_some_iff {ε : Type} {x : Except ε α} {a : α} : x.toOption = some a ↔ x = .ok a := by
  cases x <;> simp [Except.toOption]

theorem bind_eq_ok_iff {ε : Type} {x : Except ε α} {f : α → Except ε β} {b : β} :
    x.bind f = .ok b ↔ ∃ a, x = .ok a ∧ f a = .ok b := by
  cases x <;> simp [Except.bind]

theorem map_eq_ok_iff {ε : Type} {x : Except ε α} {f : α → β} {b : β} :
    x.map f = .ok b ↔ ∃ a, x = .ok a ∧ f a = b := by
  cases x <;> simp [Except.map]

@[simp] theorem toOption_ok {ε : Type} (a : α) : (.ok a : Except ε α).toOption = some a := rfl

@[simp] theorem toOption_map {ε : Type} (x : Except ε α) (f : α → β) :
    (x.map f).toOption = x.toOption.map f := by
  cases x <;> rfl

@[simp] theorem toOption_bind {ε : Type} (x : Except ε α) (f : α → Except ε β) :
    (x.bind f).toOption = x.toOption.bind fun a => (f a).toOption := by
  cases x <;> rfl

/-! ## Plain values and lists -/

/-- A number of 32 bits is read as it stands. -/
@[simp] theorem word_natural (room : Nat) (n : UInt32) : word room (.number (.natural n.toNat)) = .ok n := by
  rw [word, if_pos n.toNat_lt_size, UInt32.ofNat_toNat]

theorem flag_eq_ok_iff {d : Document} {b : Bool} : flag room d = .ok b ↔ d = .bool b := by
  constructor
  · intro h
    cases d with
    | bool b' =>
      cases h
      rfl
    | _ => cases h
  · rintro rfl
    rfl

theorem text_eq_ok_iff {d : Document} {s : String} : text room d = .ok s ↔ d = .text s := by
  constructor
  · intro h
    cases d with
    | string q =>
      cases q with
      | ok s' =>
        cases h
        rfl
      | error e => cases h
    | _ => cases h
  · rintro rfl
    rfl

theorem option_of_ne_null {r : Reader α} {d : Document} (hnull : d ≠ .null) :
    option r room d = (r room d).map some := by
  cases d with
  | null => exact absurd rfl hnull
  | _ => rfl

/-- A function that may fail takes a list to a list item by item. -/
theorem mapM_eq_ok_iff {ε : Type} {f : α → Except ε β} {as : List α} {bs : List β} :
    as.mapM f = .ok bs ↔ List.Forall₂ (fun a b => f a = .ok b) as bs := by
  induction as generalizing bs with
  | nil =>
    rw [List.mapM_nil, List.forall₂_nil_left_iff]
    exact ⟨fun h => (Except.ok.inj h).symm, fun h => congrArg _ h.symm⟩
  | cons a as ih =>
    rw [List.mapM_cons, List.forall₂_cons_left_iff]
    constructor
    · intro h
      obtain ⟨b, hb, h⟩ := bind_eq_ok_iff.1 h
      obtain ⟨bs', hbs, h⟩ := bind_eq_ok_iff.1 h
      exact ⟨b, bs', hb, ih.1 hbs, (Except.ok.inj h).symm⟩
    · rintro ⟨b, bs', hb, hbs, rfl⟩
      exact bind_eq_ok_iff.2 ⟨b, hb, bind_eq_ok_iff.2 ⟨bs', ih.2 hbs, rfl⟩⟩

/-- A list has a counterpart item by item if each of its items has one. -/
theorem exists_forall₂_iff {R : α → β → Prop} {as : List α} :
    (∃ bs, List.Forall₂ R as bs) ↔ ∀ a ∈ as, ∃ b, R a b := by
  induction as with
  | nil => exact ⟨fun _ => List.forall_mem_nil _, fun _ => ⟨[], .nil⟩⟩
  | cons a as ih =>
    rw [List.forall_mem_cons, ← ih]
    simp only [List.forall₂_cons_left_iff]
    constructor
    · rintro ⟨_, b, bs, hb, hbs, rfl⟩
      exact ⟨⟨b, hb⟩, bs, hbs⟩
    · rintro ⟨⟨b, hb⟩, bs, hbs⟩
      exact ⟨b :: bs, b, bs, hb, hbs, rfl⟩

theorem exists_mapM_iff {ε : Type} {f : α → Except ε β} {as : List α} :
    (∃ bs, as.mapM f = .ok bs) ↔ ∀ a ∈ as, ∃ b, f a = .ok b := by
  simp only [mapM_eq_ok_iff, exists_forall₂_iff]

theorem mem_of_mapM {ε : Type} {f : α → Except ε β} {as : List α} {bs : List β} (h : as.mapM f = .ok bs)
    (b : β) : b ∈ bs ↔ ∃ a ∈ as, f a = .ok b := by
  rw [mapM_eq_ok_iff] at h
  induction h with
  | nil => simp
  | cons ha _ ih => simp [ha, ih, eq_comm]

/-- The order of the list is the order of what comes of it. -/
theorem exists_mapM_of_perm {ε : Type} {f : α → Except ε β} {as as' : List α} {bs : List β} (h : as.Perm as')
    (has : as.mapM f = .ok bs) : ∃ bs', as'.mapM f = .ok bs' ∧ bs.Perm bs' := by
  obtain ⟨bs', hbs', hperm⟩ := List.perm_comp_forall₂ h.symm (mapM_eq_ok_iff.1 has)
  exact ⟨bs', mapM_eq_ok_iff.2 hbs', hperm.symm⟩

theorem items_eq_mapM (r : Reader α) (room : Nat) (ds : List Document) :
    items r room ds = ds.mapM (r room) := by
  induction ds with
  | nil => rfl
  | cons d ds ih =>
    rw [items, List.mapM_cons, ih]
    rfl

/-- A list is read where there is room for it, if each of its items can be read. -/
theorem list_eq_ok_iff {r : Reader α} {d : Document} {as : List α} :
    list r room d = .ok as ↔ 1 < room ∧ ∃ ds, d = .list ds ∧ items r (room - 1) ds = .ok as := by
  constructor
  · intro h
    cases d with
    | array ds tail =>
      rw [list, enter] at h
      split at h
      · cases h
      · next hroom =>
        obtain ⟨as', hitems, h⟩ := bind_eq_ok_iff.1 h
        cases tail with
        | broken b => cases h
        | closed =>
          cases h
          exact ⟨by omega, ds, rfl, hitems⟩
    | _ => cases h
  · rintro ⟨hroom, ds, rfl, hitems⟩
    have henter : ¬ room ≤ 1 := by omega
    rw [list, enter, if_neg henter, hitems]
    rfl

/-! ## Members -/

/-- The first member of a name. -/
def member? (name : String) : List (Quoted × Document) → Option Document
  | [] => none
  | (.ok key, d) :: ms => if key = name then some d else member? name ms
  | (.error _, _) :: ms => member? name ms

/-- Where the field of a structure is found: under its name in an object, at its place in a list. -/
def Document.field? (name : String) (index : Nat) : Document → Option Document
  | .object ms _ => member? name ms
  | .array ds _ => ds[index]?
  | _ => none

/-- Members in good order: no field has two of them, and what is no field can be skipped. -/
structure WellFormed (fields : List String) (ms : List (Quoted × Document)) : Prop where
  /-- Names are texts. -/
  named : ∀ m ∈ ms, ∃ name, m.1 = .ok name
  once : ms.Pairwise fun m n => ∀ name ∈ fields, m.1 = .ok name → n.1 ≠ .ok name
  skipped : ∀ m ∈ ms, (∀ name ∈ fields, m.1 ≠ .ok name) → m.2.skip = .ok ()

/-! ## Fields -/

/-- What a field comes to: its value so far, else that of its document, else its default. -/
def fieldValue (r : Reader α) (room : Nat) (absent : Option α) : Option α → Option Document → Option α
  | some a, _ => some a
  | none, some d => (r room d).toOption
  | none, none => absent

/-- A field without default is its member. -/
theorem fieldValue_required (r : Reader α) (d : Option Document) :
    fieldValue r room none none d = d.bind fun d => (r room d).toOption := by
  cases d <;> rfl

/-- Where a value can be written in one way only, a field without default has it if it is written there. -/
theorem fieldValue_required_eq_some_iff {r : Reader α} {a : α} {written : Document}
    (h : ∀ {d}, r room d = .ok a ↔ d = written) {field : Option Document} :
    fieldValue r room none none field = some a ↔ field = some written := by
  rw [fieldValue_required, Option.bind_eq_some_iff]
  simp only [toOption_eq_some_iff, h, exists_eq_right]

/-- A field with a default may be written out. -/
theorem fieldValue_optional {r : Reader α} {absent : α} {written : Document}
    (h : r room written = .ok absent) (d : Option Document) :
    fieldValue r room (some absent) none d = (r room (d.getD written)).toOption := by
  cases d with
  | none => rw [Option.getD_none, h]; rfl
  | some d => rfl

namespace Fields

/-- The names of the fields, in the order of declaration. -/
def names : {ts : List Type} → Fields ts → List String
  | _, .nil => []
  | _, .cons name _ _ rest => name :: rest.names

/-- The values that the fields have in a document, the first of them at a place in the declaration. -/
def pick (room : Nat) (d : Document) (index : Nat) : {ts : List Type} → Fields ts → Option (Row ts)
  | _, .nil => some ()
  | _, .cons name r absent rest =>
    (fieldValue r room absent none (d.field? name index)).bind fun a =>
      (pick room d (index + 1) rest).map fun row => (a, row)

@[simp] theorem names_nil : Fields.nil.names = [] := rfl

@[simp] theorem names_cons (name : String) (r : Reader α) (absent : Option α) (rest : Fields ts) :
    (Fields.cons name r absent rest).names = name :: rest.names := rfl

theorem pick_cons (name : String) (r : Reader α) (absent : Option α) (rest : Fields ts)
    (d : Document) (index : Nat) :
    (Fields.cons name r absent rest).pick room d index =
      (fieldValue r room absent none (d.field? name index)).bind fun a =>
        (rest.pick room d (index + 1)).map fun row => (a, row) := rfl

theorem map_pick_nil (d : Document) (index : Nat) (make : Row [] → β) :
    (Fields.nil.pick room d index).map make = some (make ()) := rfl

/-- What the fields make, one field after another. -/
theorem map_pick_cons (name : String) (r : Reader α) (absent : Option α) (rest : Fields ts)
    (d : Document) (index : Nat) (make : Row (α :: ts) → β) :
    ((Fields.cons name r absent rest).pick room d index).map make =
      (fieldValue r room absent none (d.field? name index)).bind fun a =>
        (rest.pick room d (index + 1)).map fun row => make (a, row) := by
  rw [pick_cons]
  cases fieldValue r room absent none (d.field? name index) with
  | none => rfl
  | some a => exact Option.map_map make _ _

/-- What the fields make, where the first of them has a value. -/
theorem map_pick_eq_some {name : String} {r : Reader α} {absent : Option α} {rest : Fields ts}
    {d : Document} {index : Nat} {make : Row (α :: ts) → β} {a : α} {b : β}
    (ha : fieldValue r room absent none (d.field? name index) = some a)
    (hrest : (rest.pick room d (index + 1)).map (fun row => make (a, row)) = some b) :
    ((Fields.cons name r absent rest).pick room d index).map make = some b := by
  rw [map_pick_cons, ha]
  exact hrest

/-- The values of the fields once the members that are left are put into them, too. -/
def resume (room : Nat) (ms : List (Quoted × Document)) :
    {ts : List Type} → Fields ts → Slots ts → Option (Row ts)
  | _, .nil, _ => some ()
  | _, .cons name r absent rest, (slot, slots) =>
    (fieldValue r room absent slot (member? name ms)).bind fun a =>
      (resume room ms rest slots).map fun row => (a, row)

/-- Nothing has been read into the field of a name. -/
def Vacant (key : String) : {ts : List Type} → Fields ts → Slots ts → Prop
  | _, .nil, _ => True
  | _, .cons name _ _ rest, (slot, slots) => (name = key → slot = none) ∧ rest.Vacant key slots

theorem resume_unread (fields : Fields ts) (ms : List (Quoted × Document)) (tail : Tail) (index : Nat) :
    fields.resume room ms fields.unread = fields.pick room (.object ms tail) index := by
  induction fields generalizing index with
  | nil => rfl
  | cons name r absent rest ih => rw [unread, resume, pick, ih (index + 1)]; rfl

theorem vacant_unread (fields : Fields ts) (key : String) : fields.Vacant key fields.unread := by
  induction fields with
  | nil => trivial
  | cons name r absent rest ih => exact ⟨fun _ => rfl, ih⟩

/-- Without further members the fields are finished with their defaults. -/
theorem toOption_finish (fields : Fields ts) (slots : Slots ts) :
    (fields.finish slots).toOption = fields.resume room [] slots := by
  induction fields with
  | nil => rfl
  | cons name r absent rest ih =>
    obtain ⟨slot, slots⟩ := slots
    have hvalue : fieldValue r room absent slot (member? name []) = slot.or absent := by
      cases slot <;> rfl
    rw [finish, resume, hvalue]
    cases slot.or absent with
    | none => rfl
    | some a => exact (toOption_map _ _).trans (congrArg _ (ih slots))

/-! ### Members one by one -/

variable {key : String} {d : Document} {ms : List (Quoted × Document)} {fields : Fields ts}
  {slots slots' : Slots ts}

theorem put_cons (name : String) (r : Reader α) (absent : Option α) (rest : Fields ts)
    (slot : Option α) (slots : Slots ts) :
    put room key d (.cons name r absent rest) (slot, slots) =
      if key = name then
        some (match slot with
          | some _ => .error (.duplicateField name)
          | none => (r room d).map fun a => (some a, slots))
      else (put room key d rest slots).map fun result => result.map fun slots => (slot, slots) := rfl

theorem put_eq_none_iff : fields.put room key d slots = none ↔ key ∉ fields.names := by
  induction fields with
  | nil => simp [put, names]
  | cons name r absent rest ih =>
    obtain ⟨slot, slots⟩ := slots
    rw [put_cons, names, List.mem_cons, not_or]
    split
    · next hkey => simp [hkey]
    · next hkey =>
      rw [and_iff_right hkey]
      exact Option.map_eq_none_iff.trans ih

/-- A member that is no field changes nothing. -/
theorem resume_cons_of_not_mem (h : key ∉ fields.names) (slots : Slots ts) :
    fields.resume room ((.ok key, d) :: ms) slots = fields.resume room ms slots := by
  induction fields with
  | nil => rfl
  | cons name r absent rest ih =>
    obtain ⟨slot, slots⟩ := slots
    rw [names, List.mem_cons, not_or] at h
    rw [resume, resume, member?, if_neg h.1, ih h.2]

/-- A member that was put into its field is the first one that is left for it. -/
theorem resume_of_put (hnames : fields.names.Nodup)
    (h : fields.put room key d slots = some (.ok slots')) :
    fields.resume room ms slots' = fields.resume room ((.ok key, d) :: ms) slots := by
  induction fields with
  | nil => cases h
  | cons name r absent rest ih =>
    obtain ⟨slot, slots⟩ := slots
    obtain ⟨slot', slots'⟩ := slots'
    rw [names, List.nodup_cons] at hnames
    rw [put_cons] at h
    split at h
    · next hkey =>
      subst hkey
      cases slot with
      | some a => cases h
      | none =>
        cases hread : r room d with
        | error e => rw [hread] at h; cases h
        | ok a =>
          rw [hread] at h
          cases h
          rw [resume, resume, member?, if_pos rfl, resume_cons_of_not_mem hnames.1]
          simp only [fieldValue, hread, Except.toOption]
    · next hkey =>
      cases hrest : put room key d rest slots with
      | none => rw [hrest] at h; cases h
      | some result =>
        rw [hrest] at h
        cases result with
        | error e => cases h
        | ok slots'' =>
          cases h
          rw [resume, resume, member?, if_neg hkey, ih hnames.2 hrest]

/-- What was gathered counts as the members that it came from. -/
theorem resume_of_gather (hnames : fields.names.Nodup) (h : fields.gather room ms slots = .ok slots') :
    fields.resume room [] slots' = fields.resume room ms slots := by
  induction ms generalizing slots with
  | nil => cases h; rfl
  | cons m ms ih =>
    obtain ⟨key, d⟩ := m
    cases key with
    | error e => cases h
    | ok key =>
      rw [gather] at h
      cases hput : fields.put room key d slots with
      | none =>
        rw [hput] at h
        rw [resume_cons_of_not_mem (put_eq_none_iff.1 hput)]
        cases hskip : d.skip with
        | error e => simp only [hskip] at h; cases h
        | ok u => simp only [hskip] at h; exact ih h
      | some result =>
        rw [hput] at h
        cases result with
        | error e => cases h
        | ok slots₁ => rw [ih h, resume_of_put hnames hput]

theorem exists_put (hkey : key ∈ fields.names) (hvacant : fields.Vacant key slots)
    (h : (fields.resume room ((.ok key, d) :: ms) slots).isSome) :
    ∃ slots', fields.put room key d slots = some (.ok slots') ∧
      ∀ other, other ≠ key → fields.Vacant other slots → fields.Vacant other slots' := by
  induction fields with
  | nil => cases hkey
  | cons name r absent rest ih =>
    obtain ⟨slot, slots⟩ := slots
    rw [resume, member?] at h
    rw [put_cons]
    by_cases hname : key = name
    · subst hname
      rw [if_pos rfl, hvacant.1 rfl, fieldValue] at h
      rw [if_pos rfl, hvacant.1 rfl]
      cases hread : r room d with
      | error e => rw [hread] at h; cases h
      | ok a =>
        refine ⟨(some a, slots), rfl, ?_⟩
        intro other hother hv
        exact ⟨fun e => absurd e.symm hother, hv.2⟩
    · rw [if_neg hname] at h ⊢
      have hrest : (rest.resume room ((.ok key, d) :: ms) slots).isSome := by
        cases hvalue : fieldValue r room absent slot (member? name ms) with
        | none => rw [hvalue] at h; cases h
        | some a => rw [hvalue] at h; exact Option.isSome_map.symm.trans h
      rw [names, List.mem_cons] at hkey
      obtain ⟨slots', hput, hv⟩ := ih (hkey.resolve_left hname) hvacant.2 hrest
      refine ⟨(slot, slots'), by rw [hput]; rfl, ?_⟩
      intro other hother hvother
      exact ⟨hvother.1, hv other hother hvother.2⟩

/-- Members in good order are gathered, if each field comes to something. -/
theorem exists_gather (hnames : fields.names.Nodup) (hms : WellFormed fields.names ms)
    (hvacant : ∀ m ∈ ms, ∀ name, m.1 = .ok name → fields.Vacant name slots)
    (h : (fields.resume room ms slots).isSome) : ∃ slots', fields.gather room ms slots = .ok slots' := by
  induction ms generalizing slots with
  | nil => exact ⟨slots, rfl⟩
  | cons m ms ih =>
    obtain ⟨key, d⟩ := m
    obtain ⟨hnamed, honce, hskipped⟩ := hms
    rw [List.forall_mem_cons] at hnamed hskipped hvacant
    rw [List.pairwise_cons] at honce
    obtain ⟨⟨key, rfl⟩, hnamed⟩ := hnamed
    have hrest : WellFormed fields.names ms := ⟨hnamed, honce.2, hskipped.2⟩
    rw [gather]
    by_cases hkey : key ∈ fields.names
    · obtain ⟨slots', hput, hv⟩ := exists_put hkey (hvacant.1 key rfl) h
      rw [← resume_of_put hnames hput] at h
      simp only [hput, Except.bind]
      apply ih hrest _ h
      intro m hm name hname
      -- The field that was filled has no second member.
      have hother : name ≠ key := fun e => honce.1 m hm key hkey rfl (e ▸ hname)
      exact hv name hother (hvacant.2 m hm name hname)
    · rw [resume_cons_of_not_mem hkey] at h
      have hskip : d.skip = .ok () := hskipped.1 fun name hname e => hkey (Except.ok.inj e ▸ hname)
      simp only [put_eq_none_iff.2 hkey, hskip, Except.bind]
      exact ih hrest hvacant.2 h

/-! ### Items one by one -/

/-- Fields that were read from the items of a list have the values that they have there. -/
theorem pick_of_fromItems {expected : String} {place index : Nat} {tail : Tail} {ds left : List Document}
    {row : Row ts} (h : fromItems room expected place tail fields (ds.drop index) = .ok (row, left)) :
    fields.pick room (.array ds tail) index = some row := by
  induction fields generalizing place index with
  | nil => rfl
  | cons name r absent rest ih =>
    rw [pick, Document.field?]
    cases hdrop : ds.drop index with
    | nil =>
      have hlast : ds[index]? = none := by rw [← List.head?_drop, hdrop, List.head?_nil]
      have hnext : ds.drop (index + 1) = [] := by rw [← List.tail_drop, hdrop, List.tail_nil]
      rw [hdrop] at h
      rw [hlast, fieldValue]
      -- The list is at its end, so only fields with a default are left.
      cases tail with
      | broken b => cases h
      | closed =>
        cases absent with
        | none => cases h
        | some a =>
          obtain ⟨⟨row', left'⟩, hrest, heq⟩ := map_eq_ok_iff.1 h
          cases heq
          rw [← hnext] at hrest
          rw [ih hrest]
          rfl
    | cons d ds' =>
      have hfirst : ds[index]? = some d := by rw [← List.head?_drop, hdrop, List.head?_cons]
      have hnext : ds.drop (index + 1) = ds' := by rw [← List.tail_drop, hdrop, List.tail_cons]
      rw [hdrop] at h
      obtain ⟨a, hread, hmap⟩ := bind_eq_ok_iff.1 h
      obtain ⟨⟨row', left'⟩, hrest, heq⟩ := map_eq_ok_iff.1 hmap
      cases heq
      rw [← hnext] at hrest
      rw [hfirst, fieldValue, hread, ih hrest]
      rfl

/-- Without items to spare, a list has the fields that were picked from it. -/
theorem fromItems_of_pick {expected : String} {place index : Nat} {ds : List Document} {row : Row ts}
    (hlength : ds.length ≤ index + fields.names.length)
    (h : fields.pick room (.list ds) index = some row) :
    fromItems room expected place .closed fields (ds.drop index) = .ok (row, []) := by
  induction fields generalizing place index with
  | nil =>
    have hdrop : ds.drop index = [] := List.drop_eq_nil_of_le hlength
    rw [hdrop]
    rfl
  | cons name r absent rest ih =>
    rw [names_cons, List.length_cons] at hlength
    obtain ⟨a, ha, hmap⟩ := Option.bind_eq_some_iff.1 h
    obtain ⟨row', hrest, rfl⟩ := Option.map_eq_some_iff.1 hmap
    have hnext : fromItems room expected (place + 1) .closed rest (ds.drop (index + 1)) = .ok (row', []) :=
      ih (by omega) hrest
    rw [← List.tail_drop] at hnext
    rw [Document.field?, ← List.head?_drop] at ha
    cases hdrop : ds.drop index with
    | nil =>
      rw [hdrop] at ha hnext
      cases ha
      exact congrArg (Except.map _) hnext
    | cons d ds' =>
      rw [hdrop] at ha hnext
      have hread : r room d = .ok a := toOption_eq_some_iff.1 ha
      rw [fromItems, hread]
      exact congrArg (Except.map _) hnext

end Fields

/-! ## Structures -/

variable {fields : Fields ts} {what : String} {make : Row ts → α}

/-- What was read as a structure has the values of its fields. -/
theorem exists_pick_of_record (hnames : fields.names.Nodup) {d : Document} {a : α}
    (h : record what fields make room d = .ok a) :
    ∃ row, fields.pick (room - 1) d 0 = some row ∧ make row = a := by
  cases d with
  | object ms tail =>
    rw [record, enter] at h
    split at h
    · cases h
    · obtain ⟨slots, hgather, h⟩ := bind_eq_ok_iff.1 h
      obtain ⟨-, -, h⟩ := bind_eq_ok_iff.1 h
      obtain ⟨row, hfinish, hmake⟩ := map_eq_ok_iff.1 h
      refine ⟨row, ?_, hmake⟩
      rw [← Fields.resume_unread, ← Fields.resume_of_gather hnames hgather, ← Fields.toOption_finish]
      exact toOption_eq_some_iff.2 hfinish
  | array ds tail =>
    rw [record, enter] at h
    split at h
    · cases h
    · obtain ⟨⟨row, left⟩, hitems, h⟩ := bind_eq_ok_iff.1 h
      cases left with
      | nil =>
        obtain ⟨-, -, hmake⟩ := map_eq_ok_iff.1 h
        exact ⟨row, Fields.pick_of_fromItems hitems, hmake⟩
      | cons d ds' => cases h
  | keyless e =>
    rw [record, enter] at h
    split at h <;> cases h
  | _ => cases h

/-- An object in good order is read as what is picked from it. -/
theorem record_object_eq_ok (hnames : fields.names.Nodup) {ms : List (Quoted × Document)}
    (hms : WellFormed fields.names ms) (hroom : ¬ room ≤ 1) {row : Row ts}
    (h : fields.pick (room - 1) (.object ms .closed) 0 = some row) :
    record what fields make room (.object ms .closed) = .ok (make row) := by
  rw [← Fields.resume_unread] at h
  obtain ⟨slots, hgather⟩ := Fields.exists_gather hnames hms (fun _ _ name _ => fields.vacant_unread name)
    (by rw [h]; rfl)
  have hfinish : fields.finish slots = .ok row := by
    rw [← toOption_eq_some_iff, Fields.toOption_finish, Fields.resume_of_gather hnames hgather, h]
  rw [record, enter, if_neg hroom, hgather]
  exact congrArg (Except.map make) hfinish

/-- A list without items to spare is read as what is picked from it. -/
theorem record_list_eq_ok {ds : List Document} (hlength : ds.length ≤ fields.names.length)
    (hroom : ¬ room ≤ 1) {row : Row ts} (h : fields.pick (room - 1) (.list ds) 0 = some row) :
    record what fields make room (.list ds) = .ok (make row) := by
  have hitems : fields.fromItems (room - 1) (what ++ " with " ++ elements fields.count) 0 .closed ds =
      .ok (row, []) :=
    Fields.fromItems_of_pick (by omega) h
  rw [record, enter, if_neg hroom, hitems]
  rfl

/-- A structure that is written as an object in good order or as a list without items to spare. -/
inductive Document.IsRecord (known : List String) : Document → Prop
  | object {ms : List (Quoted × Document)} (h : WellFormed known ms) : IsRecord known (.object ms .closed)
  | list {ds : List Document} (h : ds.length ≤ known.length) : IsRecord known (.list ds)

theorem record_of_no_room {known : List String} {d : Document} (hd : d.IsRecord known) (hroom : room ≤ 1) :
    record what fields make room d = .error (.text .tooDeep) := by
  cases hd with
  | object h => rw [record, enter, if_pos hroom]
  | list h => rw [record, enter, if_pos hroom]

/-- **A structure is read field by field**, where there is room for it. -/
theorem toOption_record {known : List String} (hnames : fields.names = known) (hnodup : known.Nodup)
    {d : Document} (hd : d.IsRecord known) :
    (record what fields make room d).toOption =
      if room ≤ 1 then none else (fields.pick (room - 1) d 0).map make := by
  subst hnames
  split
  · next hroom => rw [record_of_no_room hd hroom]; rfl
  · next hroom =>
    cases hpick : fields.pick (room - 1) d 0 with
    | some row =>
      have hrecord : record what fields make room d = .ok (make row) := by
        cases hd with
        | object h => exact record_object_eq_ok hnodup h hroom hpick
        | list h => exact record_list_eq_ok h hroom hpick
      rw [hrecord]
      rfl
    | none =>
      cases hrecord : record what fields make room d with
      | error e => rfl
      | ok a =>
        -- Whatever is read was picked.
        obtain ⟨row, hrow, -⟩ := exists_pick_of_record hnodup hrecord
        rw [hpick] at hrow
        cases hrow

/-! ## Whole texts -/

/-- A text that holds one document and nothing else is read as that document is. -/
theorem readText_eq {r : Reader α} {s : String} {d : Document} (h : Document.ofText s.toList = (d, none)) :
    readText r s = r maximalRoom d := by
  rw [readText, h]
  change (r maximalRoom d).bind .ok = _
  cases r maximalRoom d <;> rfl

theorem readText_eq_ok_iff {r : Reader α} {s : String} {a : α} :
    readText r s = .ok a ↔ ∃ d, Document.ofText s.toList = (d, none) ∧ r maximalRoom d = .ok a := by
  constructor
  · intro h
    rw [readText] at h
    generalize hd : Document.ofText s.toList = p at h
    obtain ⟨d, after⟩ := p
    obtain ⟨a', ha, h⟩ := bind_eq_ok_iff.1 h
    cases after with
    | some e => cases h
    | none =>
      cases h
      exact ⟨d, rfl, ha⟩
  · rintro ⟨d, hd, ha⟩
    rw [readText_eq hd, ha]

/-! ## Objects as they are written -/

@[simp] theorem field?_object_nil (name : String) (index : Nat) :
    (Json.object []).toDocument.field? name index = none := rfl

@[simp] theorem field?_object_cons (name key : String) (index : Nat) (j : Json) (ms : List (String × Json)) :
    (Json.object ((key, j) :: ms)).toDocument.field? name index =
      if key = name then some j.toDocument else (Json.object ms).toDocument.field? name index := rfl

/-- Members that stand in the order of declaration are in good order. -/
theorem wellFormed_of_sublist {known : List String} (hknown : known.Nodup) {ms : List (String × Json)}
    (h : (ms.map (·.1)).Sublist known) : WellFormed known (toMembers ms) := by
  rw [toMembers_eq_map]
  refine ⟨?_, ?_, ?_⟩
  · intro m hm
    obtain ⟨m', -, rfl⟩ := List.mem_map.1 hm
    exact ⟨m'.1, rfl⟩
  · have hnodup : (ms.map (·.1)).Pairwise (· ≠ ·) := hknown.sublist h
    rw [List.pairwise_map] at hnodup ⊢
    apply hnodup.imp
    intro a b hne name _ ha hb
    exact hne ((Except.ok.inj ha).trans (Except.ok.inj hb).symm)
  · intro m hm hunknown
    obtain ⟨m', hm', rfl⟩ := List.mem_map.1 hm
    exact absurd rfl (hunknown m'.1 (h.subset (List.mem_map_of_mem hm')))

/-- An object of fields in the order of declaration is read as what its values make. -/
theorem record_eq_ok {ms : List (String × Json)} {a : α} (hnames : fields.names.Nodup)
    (hms : (ms.map (·.1)).Sublist fields.names) (hroom : 1 < room)
    (hpick : (fields.pick (room - 1) (Json.object ms).toDocument 0).map make = some a) :
    record what fields make room (Json.object ms).toDocument = .ok a := by
  rw [toDocument] at hpick ⊢
  obtain ⟨row, hrow, rfl⟩ := Option.map_eq_some_iff.1 hpick
  exact record_object_eq_ok hnames (wellFormed_of_sublist hnames hms) (Nat.not_le.2 hroom) hrow

end VisualNovel.Json
