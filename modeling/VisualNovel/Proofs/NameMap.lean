/-
  VisualNovel.Proofs.NameMap

  Maps made from lists of entries: the last entry of a name counts
  (`get?_ofList`), so the entries of a map make that map again, in any order
  (`ofList_of_perm`). Maps from which entries are left out (`get?_ofList_filterMap`)
  or a name is taken away (`get?_erase`). Sets are known by their names
  (`ext_contains`), so maps with the same names list them alike
  (`names_eq_of_contains`).
-/

import Mathlib.Data.List.Forall2
import VisualNovel.NameMap

namespace VisualNovel.NameMap

variable {α : Type u}

theorem mem_of_find?_eq_some {name : String} {es : List (String × α)} {v : α}
    (h : find? name es = some v) : (name, v) ∈ es := by
  induction es with
  | nil => cases h
  | cons e es ih =>
    obtain ⟨k, w⟩ := e
    rw [find?] at h
    split at h
    · next hk =>
      cases h
      rw [hk]
      exact List.mem_cons_self
    · exact List.mem_cons_of_mem _ (ih h)

theorem find?_eq_none_iff {name : String} {es : List (String × α)} :
    find? name es = none ↔ ∀ e ∈ es, e.1 ≠ name := by
  constructor
  · intro h
    induction es with
    | nil => simp
    | cons e es ih =>
      obtain ⟨k, w⟩ := e
      rw [find?] at h
      split at h
      · cases h
      · next hk => simpa [hk] using ih h
  · exact find?_eq_none_of_forall

theorem find?_append (name : String) (es fs : List (String × α)) :
    find? name (es ++ fs) = (find? name es).or (find? name fs) := by
  induction es with
  | nil => rfl
  | cons e es ih =>
    obtain ⟨k, w⟩ := e
    rw [List.cons_append, find?, find?, ih]
    split <;> simp

theorem get?_foldl_insert (es : List (String × α)) (m : NameMap α) (name : String) :
    (es.foldl (fun m e => m.insert e.1 e.2) m).get? name = (find? name es.reverse).or (m.get? name) := by
  induction es generalizing m with
  | nil => rfl
  | cons e es ih =>
    obtain ⟨k, v⟩ := e
    rw [List.foldl_cons, ih, List.reverse_cons, find?_append, get?_insert, Option.or_assoc]
    simp only [find?, eq_comm (a := name)]
    split <;> simp

/-- Of several entries under one name the last one counts. -/
theorem get?_ofList (es : List (String × α)) (name : String) :
    (ofList es).get? name = find? name es.reverse := by
  rw [ofList, get?_foldl_insert, get?_empty, Option.or_none]

theorem find?_reverse (name : String) (es : List (String × α)) :
    find? name es.reverse = ((es.filter fun e => e.1 = name).getLast?).map (·.2) := by
  induction es with
  | nil => rfl
  | cons e es ih =>
    obtain ⟨k, v⟩ := e
    rw [List.reverse_cons, find?_append, ih]
    by_cases hk : k = name
    · rw [List.filter_cons_of_pos (by simpa using hk), List.getLast?_cons]
      cases (es.filter fun e => e.1 = name).getLast? <;> simp [find?, hk]
    · rw [List.filter_cons_of_neg (by simpa using hk), find?, if_neg hk, find?, Option.or_none]

/-- A map is made of its entries. -/
@[simp] theorem ofList_entries (m : NameMap α) : ofList m.entries = m := by
  apply ext_get?
  intro name
  rw [get?_ofList]
  cases h : find? name m.entries.reverse with
  | some v => exact (get?_eq_some_iff.2 (List.mem_reverse.1 (mem_of_find?_eq_some h))).symm
  | none =>
    apply Eq.symm
    apply find?_eq_none_iff.2
    intro e he
    exact find?_eq_none_iff.1 h e (List.mem_reverse.2 he)

/-! ## The last entry of a name -/

/-- The last value under a name in a list of entries. -/
def last? (name : String) (es : List (String × α)) : Option α :=
  find? name es.reverse

theorem get?_ofList_eq_last? (es : List (String × α)) (name : String) :
    (ofList es).get? name = last? name es :=
  get?_ofList es name

theorem mem_of_last?_eq_some {name : String} {es : List (String × α)} {v : α}
    (h : last? name es = some v) : (name, v) ∈ es :=
  List.mem_reverse.1 (mem_of_find?_eq_some h)

/-- A name has a last entry if it has an entry at all. -/
theorem exists_last?_iff {name : String} {es : List (String × α)} :
    (∃ v, last? name es = some v) ↔ name ∈ es.map (·.1) := by
  rw [← Option.ne_none_iff_exists', Ne, last?, find?_eq_none_iff, List.mem_map]
  simp only [List.mem_reverse, Ne, not_forall, exists_prop, not_not]

/-- Entries with the same names in the same places are found in the same places. -/
theorem rel_find? {β : Type v} {R : α → β → Prop} {es : List (String × α)} {fs : List (String × β)}
    (h : List.Forall₂ (fun e f => e.1 = f.1 ∧ R e.2 f.2) es fs) (name : String) :
    Option.Rel R (find? name es) (find? name fs) := by
  induction h with
  | nil => exact .none
  | cons hentry _ ih =>
    obtain ⟨hname, hR⟩ := hentry
    rw [find?, find?, hname]
    split
    · exact .some hR
    · exact ih

theorem rel_last? {β : Type v} {R : α → β → Prop} {es : List (String × α)} {fs : List (String × β)}
    (h : List.Forall₂ (fun e f => e.1 = f.1 ∧ R e.2 f.2) es fs) (name : String) :
    Option.Rel R (last? name es) (last? name fs) :=
  rel_find? (List.rel_reverse h) name

/-- A name that stands at most once has one entry, whichever end it is looked up from. -/
theorem last?_eq_find? {name : String} {es : List (String × α)}
    (h : es.Pairwise fun e f => e.1 = name → f.1 ≠ name) : last? name es = find? name es := by
  induction es with
  | nil => rfl
  | cons e es ih =>
    obtain ⟨hfirst, hrest⟩ := List.pairwise_cons.1 h
    rw [last?, List.reverse_cons, find?_append, ← last?, ih hrest]
    by_cases hname : e.1 = name
    · have hnone : find? name es = none := find?_eq_none_iff.2 fun f hf => hfirst f hf hname
      simp only [find?, hname, hnone, if_true, Option.none_or]
    · simp only [find?, hname, if_false, Option.or_none]

/-- The entries of a map make that map again in any order. -/
theorem ofList_of_perm {m : NameMap α} {es : List (String × α)} (h : es.Perm m.entries) : ofList es = m := by
  apply ext_get?
  intro name
  rw [get?_ofList_eq_last?]
  cases hlast : last? name es with
  | none =>
    apply Eq.symm
    apply find?_eq_none_iff.2
    intro e he heq
    have hname : name ∈ es.map (·.1) := heq ▸ List.mem_map_of_mem (h.mem_iff.2 he)
    obtain ⟨v, hv⟩ := exists_last?_iff.2 hname
    rw [hlast] at hv
    cases hv
  | some v => exact (get?_eq_some_iff.2 (h.mem_iff.1 (mem_of_last?_eq_some hlast))).symm

/-- Each entry of a map once, in any order, its value written in some way. -/
def WrittenIn {β : Type v} (Writes : α → β → Prop) (m : NameMap α) (fs : List (String × β)) : Prop :=
  ∃ es : List (String × α), es.Perm m.entries ∧ List.Forall₂ (fun f e => f.1 = e.1 ∧ Writes e.2 f.2) fs es

/-- What is written under a name is the value of that name. -/
theorem WrittenIn.rel_last? {β : Type v} {Writes : α → β → Prop} {m : NameMap α} {fs : List (String × β)}
    (h : m.WrittenIn Writes fs) (name : String) :
    Option.Rel (fun f a => Writes a f) (last? name fs) (m.get? name) := by
  obtain ⟨es, hperm, hes⟩ := h
  rw [← ofList_of_perm hperm, get?_ofList_eq_last?]
  exact NameMap.rel_last? hes name

/-! ## Leaving out -/

/-- Entries that are left out do not change where the others are found. -/
theorem find?_filterMap {β : Type v} (f : α → Option β) (name : String) {es : List (String × α)}
    (h : es.Pairwise fun e e' => e.1 ≠ e'.1) :
    find? name (es.filterMap fun e => (f e.2).map fun b => (e.1, b)) = (find? name es).bind f := by
  induction es with
  | nil => rfl
  | cons e es ih =>
    obtain ⟨k, v⟩ := e
    obtain ⟨hfirst, hrest⟩ := List.pairwise_cons.1 h
    rw [List.filterMap_cons, find?]
    by_cases hk : k = name
    · subst hk
      have hnone : find? k es = none := find?_eq_none_iff.2 fun e he heq => hfirst e he heq.symm
      rw [if_pos rfl, Option.bind_some]
      cases hv : f v with
      | none => simp only [Option.map_none, ih hrest, hnone, Option.bind_none]
      | some b => simp only [Option.map_some, find?, if_true]
    · rw [if_neg hk]
      cases hv : f v with
      | none => simp only [Option.map_none, ih hrest]
      | some b => simp only [Option.map_some, find?, if_neg hk, ih hrest]

/-- A map of some entries of another map, each with a value made from the one that it has there. -/
theorem get?_ofList_filterMap {β : Type v} (f : α → Option β) (m : NameMap α) (name : String) :
    (ofList (m.entries.filterMap fun e => (f e.2).map fun b => (e.1, b))).get? name = (m.get? name).bind f := by
  have honce : m.entries.reverse.Pairwise fun e e' => e.1 ≠ e'.1 := by
    rw [List.pairwise_reverse]
    apply m.ascending.imp
    intro e e' hlt heq
    exact String.lt_irrefl _ (heq ▸ hlt)
  rw [get?_ofList, ← List.filterMap_reverse, find?_filterMap f name honce, ← get?_ofList, ofList_entries]

/-! ## Taking away -/

theorem find?_filter_ne (name other : String) (es : List (String × α)) :
    find? other (es.filter fun e => e.1 ≠ name) = if other = name then none else find? other es := by
  induction es with
  | nil => simp [find?]
  | cons e es ih =>
    obtain ⟨k, v⟩ := e
    by_cases hk : k = name
    · subst hk
      rw [List.filter_cons_of_neg (by simp), ih, find?]
      by_cases hother : other = k
      · rw [if_pos hother, if_pos hother]
      · rw [if_neg hother, if_neg hother, if_neg (Ne.symm hother)]
    · rw [List.filter_cons_of_pos (by simpa using hk), find?, find?, ih]
      by_cases hother : k = other
      · rw [if_pos hother, if_pos hother, if_neg (hother ▸ hk)]
      · rw [if_neg hother, if_neg hother]

/-- The map without a name. -/
def erase (m : NameMap α) (name : String) : NameMap α :=
  ⟨m.entries.filter fun e => e.1 ≠ name, m.ascending.filter _⟩

theorem get?_erase (m : NameMap α) (name other : String) :
    (m.erase name).get? other = if other = name then none else m.get? other :=
  find?_filter_ne ..

end VisualNovel.NameMap

/-! ## Sets -/

namespace VisualNovel.NameSet

/-- A set is known by the names in it. -/
theorem ext_contains {s t : NameSet} (h : ∀ name, s.contains name = t.contains name) : s = t := by
  apply NameMap.ext_get?
  intro name
  have hname := h name
  -- A name has no other value than the one of all names in a set.
  simp only [NameMap.contains] at hname
  cases hs : s.get? name with
  | none =>
    rw [hs, Option.isSome_none, eq_comm, Option.isSome_eq_false_iff, Option.isNone_iff_eq_none] at hname
    exact hname.symm
  | some v =>
    rw [hs, Option.isSome_some, eq_comm, Option.isSome_iff_exists] at hname
    obtain ⟨w, hw⟩ := hname
    exact hw.symm

/-- The order and the repetition of names do not matter. -/
theorem ofNames_eq {names names' : List String} (h : ∀ name, name ∈ names ↔ name ∈ names') :
    ofNames names = ofNames names' := by
  apply ext_contains
  intro name
  rw [contains_ofNames, contains_ofNames, decide_eq_decide]
  exact h name

/-- A set is made of its names. -/
@[simp] theorem ofNames_names (s : NameSet) : ofNames s.names = s := by
  apply ext_contains
  intro name
  rw [contains_ofNames, Bool.eq_iff_iff, decide_eq_true_iff, NameMap.mem_names_iff]

/-- The names of two sets. -/
def union (s t : NameSet) : NameSet :=
  t.names.foldl add s

theorem contains_union (s t : NameSet) (name : String) :
    (s.union t).contains name = (s.contains name || t.contains name) := by
  have hnames : decide (name ∈ NameMap.names t) = t.contains name := by
    rw [Bool.eq_iff_iff, decide_eq_true_iff, NameMap.mem_names_iff]
  rw [union, contains_foldl_add, hnames, Bool.or_comm]

end VisualNovel.NameSet

/-! ## Names -/

namespace VisualNovel.NameMap

theorem names_map {α β : Type} (f : α → β) (m : NameMap α) : (m.map f).names = m.names := by
  rw [names, map, List.map_map]
  rfl

/-- Maps with the same names list them alike. -/
theorem names_eq_of_contains {α : Type} {m n : NameMap α}
    (h : ∀ name, m.contains name = n.contains name) : m.names = n.names := by
  have hset : m.map (fun _ => ()) = n.map (fun _ => ()) := by
    apply NameSet.ext_contains
    intro name
    simpa only [contains, get?_map, Option.isSome_map] using h name
  rw [← names_map (fun _ => ()) m, hset, names_map]

end VisualNovel.NameMap
