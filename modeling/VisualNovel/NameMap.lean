/-
  VisualNovel.NameMap

  Finite maps and sets of names. Entries are kept in ascending order of their
  names, by code point, each name once, so two maps with the same look-ups are
  equal (`NameMap.ext_get?`) and listing a map needs no sorting.

  The one primitive that changes a map is `alter`, which stores a new value
  made from the old one under a name; `get?_alter` says what it does.
-/

namespace VisualNovel

/-- A finite map from names to values, in ascending order of names. -/
structure NameMap (α : Type u) where
  /-- The entries in order. -/
  entries : List (String × α)
  /-- Names ascend strictly. -/
  ascending : entries.Pairwise (fun a b => a.1 < b.1)
  deriving DecidableEq

namespace NameMap

variable {α : Type u} {β : Type v}

/-- The map without entries. -/
def empty : NameMap α := ⟨[], .nil⟩

instance : EmptyCollection (NameMap α) := ⟨empty⟩

instance : Inhabited (NameMap α) := ⟨empty⟩

/-- The value under a name in a list of entries: the first one. -/
def find? (name : String) : List (String × α) → Option α
  | [] => none
  | (k, v) :: rest => if k = name then some v else find? name rest

/-- The value under a name. -/
def get? (m : NameMap α) (name : String) : Option α :=
  find? name m.entries

/-- Whether a name has a value. -/
def contains (m : NameMap α) (name : String) : Bool :=
  (m.get? name).isSome

/-- The names in order. -/
def names (m : NameMap α) : List String :=
  m.entries.map (·.1)

/-- Number of entries. -/
def size (m : NameMap α) : Nat :=
  m.entries.length

/-- Puts `f` of the old value under `name`, in its place in the order. -/
def alterEntries (name : String) (f : Option α → α) : List (String × α) → List (String × α)
  | [] => [(name, f none)]
  | (k, v) :: rest =>
    if name < k then (name, f none) :: (k, v) :: rest
    else if name = k then (k, f (some v)) :: rest
    else (k, v) :: alterEntries name f rest

theorem mem_alterEntries {name : String} {f : Option α → α} {es : List (String × α)}
    {e : String × α} (h : e ∈ alterEntries name f es) : e.1 = name ∨ ∃ v, (e.1, v) ∈ es := by
  induction es with
  | nil => simp only [alterEntries, List.mem_singleton] at h; exact .inl (by rw [h])
  | cons p rest ih =>
    obtain ⟨k, v⟩ := p
    simp only [alterEntries] at h
    split at h
    · rcases List.mem_cons.1 h with rfl | h
      · exact .inl rfl
      · exact .inr ⟨e.2, h⟩
    · split at h
      · rcases List.mem_cons.1 h with rfl | h
        · exact .inr ⟨v, by simp⟩
        · exact .inr ⟨e.2, List.mem_cons_of_mem _ h⟩
      · rcases List.mem_cons.1 h with rfl | h
        · exact .inr ⟨v, by simp⟩
        · rcases ih h with h | ⟨w, hw⟩
          · exact .inl h
          · exact .inr ⟨w, List.mem_cons_of_mem _ hw⟩

theorem lt_of_not_lt_of_ne {a b : String} (h : ¬ a < b) (hne : a ≠ b) : b < a := by
  rcases Std.lt_trichotomy a b with h' | h' | h'
  · exact absurd h' h
  · exact absurd h' hne
  · exact h'

theorem ascending_alterEntries {name : String} {f : Option α → α} {es : List (String × α)}
    (h : es.Pairwise (fun a b => a.1 < b.1)) :
    (alterEntries name f es).Pairwise (fun a b => a.1 < b.1) := by
  induction es with
  | nil => simp [alterEntries]
  | cons p rest ih =>
    obtain ⟨k, v⟩ := p
    have hrest := List.pairwise_cons.1 h
    simp only [alterEntries]
    split
    · next hlt =>
      refine List.pairwise_cons.2 ⟨?_, h⟩
      intro e he
      rcases List.mem_cons.1 he with rfl | he
      · exact hlt
      · exact String.lt_trans hlt (hrest.1 e he)
    · split
      · exact List.pairwise_cons.2 ⟨hrest.1, hrest.2⟩
      · next hlt hne =>
        refine List.pairwise_cons.2 ⟨?_, ih hrest.2⟩
        intro e he
        rcases mem_alterEntries he with h' | ⟨w, hw⟩
        · simpa [h'] using lt_of_not_lt_of_ne hlt hne
        · exact hrest.1 (e.1, w) hw

/-- Stores `f` of the old value under a name. -/
def alter (m : NameMap α) (name : String) (f : Option α → α) : NameMap α :=
  ⟨alterEntries name f m.entries, ascending_alterEntries m.ascending⟩

/-- Stores a value under a name, in place of any other. -/
def insert (m : NameMap α) (name : String) (v : α) : NameMap α :=
  m.alter name fun _ => v

/-- The map with the given entries; of several under one name the last one stays. -/
def ofList (es : List (String × α)) : NameMap α :=
  es.foldl (fun m e => m.insert e.1 e.2) empty

/-- Applies a function to every value. -/
def map (f : α → β) (m : NameMap α) : NameMap β :=
  ⟨m.entries.map fun e => (e.1, f e.2), by
    rw [List.pairwise_map]; exact m.ascending⟩

/-! ## Look-ups -/

@[simp] theorem get?_empty (name : String) : (empty : NameMap α).get? name = none := rfl

theorem find?_eq_none_of_forall {name : String} {es : List (String × α)}
    (h : ∀ e ∈ es, e.1 ≠ name) : find? name es = none := by
  induction es with
  | nil => rfl
  | cons p rest ih =>
    simp only [find?]
    rw [if_neg (h p (by simp)), ih fun e he => h e (List.mem_cons_of_mem _ he)]

theorem find?_alterEntries {name other : String} {f : Option α → α} {es : List (String × α)}
    (h : es.Pairwise (fun a b => a.1 < b.1)) :
    find? other (alterEntries name f es) =
      if other = name then some (f (find? name es)) else find? other es := by
  induction es with
  | nil => simp [alterEntries, find?, eq_comm]
  | cons p rest ih =>
    obtain ⟨k, v⟩ := p
    have hrest := List.pairwise_cons.1 h
    simp only [alterEntries]
    split
    · next hlt =>
      have hk : k ≠ name := fun e => String.lt_irrefl _ (e ▸ hlt)
      have hnone : find? name rest = none := find?_eq_none_of_forall fun e he heq =>
        String.lt_irrefl _ (heq ▸ String.lt_trans hlt (hrest.1 e he))
      by_cases ho : other = name
      · subst ho; simp [find?, hk, hnone]
      · simp [find?, ho, Ne.symm ho]
    · split
      · next heq =>
        subst heq
        by_cases ho : other = name
        · subst ho; simp [find?]
        · simp [find?, ho, Ne.symm ho]
      · next hlt hne =>
        simp only [find?, ih hrest.2]
        by_cases ho : other = name
        · subst ho; simp [Ne.symm hne]
        · simp [ho]

theorem get?_alter (m : NameMap α) (name other : String) (f : Option α → α) :
    (m.alter name f).get? other =
      if other = name then some (f (m.get? name)) else m.get? other :=
  find?_alterEntries m.ascending

theorem get?_insert (m : NameMap α) (name other : String) (v : α) :
    (m.insert name v).get? other = if other = name then some v else m.get? other := by
  simp [insert, get?_alter]

theorem find?_map (f : α → β) (name : String) (es : List (String × α)) :
    find? name (es.map fun e => (e.1, f e.2)) = (find? name es).map f := by
  induction es with
  | nil => rfl
  | cons p rest ih => simp only [List.map_cons, find?]; split <;> simp_all

@[simp] theorem get?_map (f : α → β) (m : NameMap α) (name : String) :
    (m.map f).get? name = (m.get? name).map f :=
  find?_map f name m.entries

/-- An entry is what a look-up of its name finds. -/
theorem find?_eq_some_iff {es : List (String × α)}
    (h : es.Pairwise (fun a b => a.1 < b.1)) {name : String} {v : α} :
    find? name es = some v ↔ (name, v) ∈ es := by
  induction es with
  | nil => simp [find?]
  | cons p rest ih =>
    obtain ⟨k, w⟩ := p
    have hrest := List.pairwise_cons.1 h
    simp only [find?, List.mem_cons, Prod.mk.injEq]
    split
    · next hk =>
      subst hk
      constructor
      · intro e; exact .inl ⟨rfl, (Option.some.inj e).symm⟩
      · rintro (⟨_, rfl⟩ | hm)
        · rfl
        · exact absurd (hrest.1 _ hm) (String.lt_irrefl _)
    · next hk =>
      rw [ih hrest.2]
      constructor
      · exact .inr
      · rintro (⟨rfl, _⟩ | hm)
        · exact absurd rfl hk
        · exact hm

theorem get?_eq_some_iff {m : NameMap α} {name : String} {v : α} :
    m.get? name = some v ↔ (name, v) ∈ m.entries :=
  find?_eq_some_iff m.ascending

theorem mem_names_iff {m : NameMap α} {name : String} :
    name ∈ m.names ↔ m.contains name = true := by
  simp only [names, List.mem_map, contains, Option.isSome_iff_exists, get?_eq_some_iff]
  constructor
  · rintro ⟨⟨k, v⟩, h, rfl⟩; exact ⟨v, h⟩
  · rintro ⟨v, h⟩; exact ⟨(name, v), h, rfl⟩

/-- Two strictly ascending lists with the same members are equal. -/
theorem eq_of_ascending {as bs : List (String × α)}
    (ha : as.Pairwise (fun a b => a.1 < b.1)) (hb : bs.Pairwise (fun a b => a.1 < b.1))
    (h : ∀ e, e ∈ as ↔ e ∈ bs) : as = bs := by
  induction as generalizing bs with
  | nil =>
    cases bs with
    | nil => rfl
    | cons b bs => exact absurd ((h b).2 (by simp)) (by simp)
  | cons a as ih =>
    cases bs with
    | nil => exact absurd ((h a).1 (by simp)) (by simp)
    | cons b bs =>
      have ha' := List.pairwise_cons.1 ha
      have hb' := List.pairwise_cons.1 hb
      have hab : a = b := by
        rcases List.mem_cons.1 ((h a).1 (by simp)) with e | hm
        · exact e
        · rcases List.mem_cons.1 ((h b).2 (by simp)) with e | hm'
          · exact e.symm
          · exact absurd (hb'.1 a hm) (String.lt_asymm (ha'.1 b hm'))
      subst hab
      congr 1
      apply ih ha'.2 hb'.2
      intro e
      constructor
      · intro he
        rcases List.mem_cons.1 ((h e).1 (List.mem_cons_of_mem _ he)) with rfl | he'
        · exact absurd (ha'.1 e he) (String.lt_irrefl _)
        · exact he'
      · intro he
        rcases List.mem_cons.1 ((h e).2 (List.mem_cons_of_mem _ he)) with rfl | he'
        · exact absurd (hb'.1 e he) (String.lt_irrefl _)
        · exact he'

/-- Maps with the same look-ups are equal. -/
theorem ext_get? {m n : NameMap α} (h : ∀ name, m.get? name = n.get? name) : m = n := by
  obtain ⟨es, hes⟩ := m
  obtain ⟨fs, hfs⟩ := n
  have : es = fs := eq_of_ascending hes hfs fun e => by
    have he : find? e.1 es = find? e.1 fs := h e.1
    rw [← find?_eq_some_iff hes, ← find?_eq_some_iff hfs, he]
  subst this
  rfl

end NameMap

/-- A finite set of names, in ascending order. -/
abbrev NameSet := NameMap Unit

namespace NameSet

/-- Adds a name. -/
def add (s : NameSet) (name : String) : NameSet :=
  NameMap.insert s name ()

/-- The set of the names in a list. -/
def ofNames (names : List String) : NameSet :=
  names.foldl add NameMap.empty

theorem contains_add (s : NameSet) (name other : String) :
    (s.add name).contains other = (decide (other = name) || s.contains other) := by
  simp only [add, NameMap.contains, NameMap.get?_insert]
  split <;> simp_all

theorem contains_foldl_add (names : List String) (s : NameSet) (other : String) :
    (names.foldl add s).contains other = (decide (other ∈ names) || s.contains other) := by
  induction names generalizing s with
  | nil => simp
  | cons n ns ih =>
    simp only [List.foldl_cons, ih, contains_add, List.mem_cons]
    by_cases h : other = n <;> simp [h]

@[simp] theorem contains_ofNames (names : List String) (other : String) :
    (ofNames names).contains other = decide (other ∈ names) := by
  rw [ofNames, contains_foldl_add]
  simp [NameMap.contains]

end NameSet

end VisualNovel
