/-
  VisualNovel.Proofs.Store.Confinement

  Where the files of a store are. For every key that is not refused both its files
  are right in the store's directory, under plain names (`IsChild`), and a write
  touches nothing else. No two of these files are the same.
-/

import VisualNovel.Proofs.Store.LawfulVolume
import VisualNovel.Store.FileTree

namespace VisualNovel

/-! ## Paths in a tree -/

namespace FileTree

variable {t : FileTree} {o p q : Position}

/-- The names on a path, without the empty ones that stand beside its slashes. -/
def parts (path : String) : List String :=
  (names path).filter (· ≠ "")

theorem names_of_noSlash {name : String} (h : '/' ∉ name.toList) : names name = [name] := by
  have hpiece : Text.splitOn (· == '/') name.toList = [name.toList] :=
    Text.splitOn_of_forall fun c hc => beq_false_of_ne (ne_of_mem_of_not_mem hc h)
  rw [names, hpiece, List.map_singleton, String.ofList_toList]

theorem names_append_slash (path name : String) : names (path ++ "/" ++ name) = names path ++ names name := by
  have hsplit : Text.splitOn (· == '/') (path.toList ++ '/' :: name.toList) =
      Text.splitOn (· == '/') path.toList ++ Text.splitOn (· == '/') name.toList :=
    Text.splitOn_append_cons rfl _ _
  have hlist : (path ++ "/" ++ name).toList = path.toList ++ '/' :: name.toList := by
    simp [String.toList_append]
  rw [names, hlist, hsplit, List.map_append]
  rfl

/-- A path in a directory has one name more than the directory, which may end in a slash. -/
theorem exists_names_childPath {name : String} (h : '/' ∉ name.toList) (directory : String) :
    ∃ above, names (childPath directory name) = above ++ [name] ∧
      (names directory = above ∨ names directory = above ++ [""]) := by
  rw [childPath]
  split
  · next hempty =>
    subst hempty
    exact ⟨[], names_of_noSlash h, .inr rfl⟩
  · split
    · next hlast =>
      obtain ⟨before, hbefore⟩ := List.getLast?_eq_some_iff.1 hlast
      have hdirectory : directory = .ofList before ++ "/" ++ "" := by
        rw [← String.toList_inj, hbefore]
        simp
      refine ⟨names (.ofList before), ?_, .inr ?_⟩
      · rw [hdirectory, String.append_empty, names_append_slash, names_of_noSlash h]
      · rw [hdirectory, names_append_slash]
        rfl
    · exact ⟨names directory, by rw [names_append_slash, names_of_noSlash h], .inl rfl⟩

/-- Relative paths stay relative and absolute ones absolute. -/
theorem origin_childPath {name : String} (h : '/' ∉ name.toList) (t : FileTree) (directory : String) :
    t.origin (childPath directory name) = t.origin directory := by
  have hhead : (childPath directory name).toList.head? = some '/' ↔ directory.toList.head? = some '/' := by
    rw [childPath_eq, String.toList_append]
    by_cases hempty : directory = ""
    · subst hempty
      have hname : name.toList.head? ≠ some '/' := fun hslash => h (List.mem_of_head? hslash)
      exact iff_of_false hname nofun
    · -- The first character of the directory is that of the path.
      obtain ⟨c, cs, hcs⟩ := List.exists_cons_of_ne_nil (mt String.toList_eq_nil_iff.1 hempty)
      rw [directoryPrefix, if_neg hempty]
      split <;> simp [hcs]
  simp only [origin, hhead]

/-! ## Walks -/

theorem walk_snoc_eq_ok_iff {names : List String} {name : String} :
    t.walk p (names ++ [name]) = .ok q ↔ ∃ p', t.walk p names = .ok p' ∧ t.follow p' name = .ok q := by
  induction names generalizing p with
  | nil =>
    simp only [List.nil_append, walk]
    cases hname : t.follow p name <;> simp [Except.bind, hname]
  | cons first names ih =>
    rw [List.cons_append, walk, walk]
    cases t.follow p first with
    | error e => simp [Except.bind]
    | ok p' => exact ih

/-- A plain name leads to the place of that name in a directory. -/
theorem follow_eq_ok_iff {name : String} (hne : name ≠ "") (hdot : name.toList.head? ≠ some '.') :
    t.follow p name = .ok q ↔
      t.node? p = some .directory ∧ name.utf8ByteSize ≤ 255 ∧ q = name :: p := by
  have hhere : ¬ (name = "" ∨ name = ".") := by
    rintro (rfl | rfl)
    · exact hne rfl
    · exact hdot rfl
  have habove : name ≠ ".." := by
    rintro rfl
    exact hdot rfl
  rw [follow]
  split
  · next hnode =>
    rw [if_neg hhere, if_neg habove]
    split
    · next hsize => simp only [hnode, hsize, true_and, Except.ok.injEq, eq_comm]
    · next hsize => simp only [hsize, false_and, and_false, reduceCtorEq]
  · next hother hnode => exact iff_of_false nofun fun h => hother (Option.some.inj (hnode.symm.trans h.1))
  · next hnode => simp only [hnode, reduceCtorEq, false_and]

theorem follow_empty_eq_ok_iff : t.follow p "" = .ok q ↔ t.node? p = some .directory ∧ q = p := by
  rw [follow]
  split
  · next hnode => simp only [hnode, true_or, if_true, true_and, Except.ok.injEq, eq_comm (a := p)]
  · next hother hnode => exact iff_of_false nofun fun h => hother (Option.some.inj (hnode.symm.trans h.1))
  · next hnode => simp only [hnode, reduceCtorEq, false_and]

/-- Where a path leads from where its walk starts, if its length is no matter. -/
def Leads (t : FileTree) (path : String) (q : Position) : Prop :=
  t.walk (t.origin path) (names path) = .ok q

/-- A plain name in a directory leads to the place of that name in it. -/
theorem leads_childPath_iff {name : String} (hne : name ≠ "") (hslash : '/' ∉ name.toList)
    (hdot : name.toList.head? ≠ some '.') (directory : String) :
    t.Leads (childPath directory name) q ↔
      ∃ p, t.Leads directory p ∧ t.node? p = some .directory ∧ name.utf8ByteSize ≤ 255 ∧ q = name :: p := by
  obtain ⟨above, hpath, hdirectory⟩ := exists_names_childPath hslash directory
  simp only [Leads, origin_childPath hslash, hpath, walk_snoc_eq_ok_iff, follow_eq_ok_iff hne hdot]
  rcases hdirectory with hdirectory | hdirectory
  · rw [hdirectory]
  · simp only [hdirectory, walk_snoc_eq_ok_iff, follow_empty_eq_ok_iff]
    constructor
    · rintro ⟨p, hp, hnode, hsize, rfl⟩
      exact ⟨p, ⟨p, hp, hnode, rfl⟩, hnode, hsize, rfl⟩
    · rintro ⟨_, ⟨p, hp, -, rfl⟩, hnode, hsize, rfl⟩
      exact ⟨_, hp, hnode, hsize, rfl⟩

end FileTree

/-! ## Files right in a directory -/

/--
A path of a file right in a directory. Its name is not hidden, so it is none of the two names that
stand for directories.
-/
structure IsChild (directory name path : String) : Prop where
  visible : name.toList.head? ≠ some '.'
  noSlash : '/' ∉ name.toList
  /-- The path has the names of the directory, and then its own one. -/
  parts_eq : FileTree.parts path = FileTree.parts directory ++ [name]
  /-- In every tree the path leads to the place of that name in the directory. -/
  leads_iff : ∀ (t : FileTree) (q : Position), t.Leads path q ↔
    ∃ p, t.Leads directory p ∧ t.node? p = some .directory ∧ name.utf8ByteSize ≤ 255 ∧ q = name :: p

theorem isChild_childPath {name : String} (hne : name ≠ "") (hslash : '/' ∉ name.toList)
    (hdot : name.toList.head? ≠ some '.') (directory : String) :
    IsChild directory name (childPath directory name) where
  visible := hdot
  noSlash := hslash
  parts_eq := by
    obtain ⟨above, hpath, hdirectory⟩ := FileTree.exists_names_childPath hslash directory
    have hname : [name].filter (· ≠ "") = [name] := List.filter_cons_of_pos (by simpa using hne)
    rw [FileTree.parts, FileTree.parts, hpath, List.filter_append, hname]
    rcases hdirectory with hdirectory | hdirectory
    · rw [hdirectory]
    · rw [hdirectory, List.filter_append]
      simp
  leads_iff t q := FileTree.leads_childPath_iff hne hslash hdot directory

/-! ## The files of a key -/

namespace FileStore

variable {key : String}

/-- What begins with a key and has no slash behind it is a name in the directory. -/
theorem isChild_of_isKey (h : isKey key = true) {ending : String} (hending : '/' ∉ ending.toList)
    (directory : String) : IsChild directory (key ++ ending) (childPath directory (key ++ ending)) := by
  obtain ⟨hne, hslash⟩ := ne_nil_of_isKey h
  obtain ⟨c, cs, hcs⟩ := List.exists_cons_of_ne_nil hne
  have hname : (key ++ ending).toList = c :: (cs ++ ending.toList) := by
    rw [String.toList_append, hcs, List.cons_append]
  have hdot : key.toList.head? ≠ some '.' := by
    simp only [isKey, Bool.and_eq_true, bne_iff_ne] at h
    exact h.2
  apply isChild_childPath
  · intro hempty
    rw [hempty] at hname
    cases hname
  · rw [String.toList_append, List.mem_append]
    exact not_or.2 ⟨hslash, hending⟩
  · rw [hname]
    rwa [hcs] at hdot

/-- A write makes the directory and touches the two files of its key, and nothing else. -/
theorem journal_write (h : isKey key = true) (d : Disk) (directory text : String) :
    (LedgerStore.write (⟨d, directory⟩ : FileStore Disk) key text).2.volume.journal =
      d.journal ++ [.makeDirectories directory, .writeText (draftFile directory key) text,
        .rename (draftFile directory key) (dataFile directory key)] := by
  rw [write_of_isKey h, replaceFile, draftFor_dataFile h]
  -- The disk with the draft on it is what the draft is renamed on.
  let drafted := (d.change (.makeDirectories directory) []).change (.writeText (draftFile directory key) text)
    [(draftFile directory key, .ok text)]
  have htext : drafted.readText (draftFile directory key) = .ok text := by
    rw [Disk.readText_change, List.lookup_cons_self]
    rfl
  show (drafted.rename (draftFile directory key) (dataFile directory key)).2.journal = _
  rw [Disk.rename, htext]
  show d.journal ++ [_] ++ [_] ++ [_] = _
  rw [List.append_assoc, List.append_assoc]
  rfl

/--
**Keys stay in the directory and apart.** A key is refused, or its file is right in the directory, under
the key and `.json`, and so is the draft that a write of the key makes. The files of different keys are
different, and so are their drafts, and no draft is a file of a key. A write of a key that is refused does
nothing; any other one makes the directory and touches these two files alone.
-/
theorem keys_confined (directory : String) :
    (∀ key, (isKey key = false ∧ pathFor directory key = .error (.invalidKey key)) ∨
      (isKey key = true ∧ ∃ path, pathFor directory key = .ok path ∧ IsChild directory (key ++ ".json") path ∧
        IsChild directory (key ++ ".json.tmp") (draftFor path))) ∧
    (∀ key other path path', pathFor directory key = .ok path → pathFor directory other = .ok path' →
      (key ≠ other → path ≠ path' ∧ draftFor path ≠ draftFor path') ∧ draftFor path ≠ path') ∧
    ∀ (d : Disk) (key text : String),
      (∀ e, pathFor directory key = .error e →
        LedgerStore.write (⟨d, directory⟩ : FileStore Disk) key text = (.error e, ⟨d, directory⟩)) ∧
      ∀ path, pathFor directory key = .ok path →
        (LedgerStore.write (⟨d, directory⟩ : FileStore Disk) key text).2.volume.journal =
          d.journal ++ [.makeDirectories directory, .writeText (draftFor path) text, .rename (draftFor path) path] := by
  have hfile : ∀ key path, pathFor directory key = .ok path →
      isKey key = true ∧ path = dataFile directory key ∧ draftFor path = draftFile directory key := by
    intro key path hpath
    cases hkey : isKey key with
    | false =>
      rw [pathFor_of_not_isKey hkey] at hpath
      cases hpath
    | true =>
      rw [pathFor_of_isKey hkey] at hpath
      cases hpath
      exact ⟨rfl, rfl, draftFor_dataFile hkey directory⟩
  refine ⟨fun key => ?_, ?_, fun d key text => ⟨fun e he => ?_, fun path hpath => ?_⟩⟩
  · cases hkey : isKey key with
    | false => exact .inl ⟨rfl, pathFor_of_not_isKey hkey directory⟩
    | true =>
      refine .inr ⟨rfl, dataFile directory key, pathFor_of_isKey hkey directory, ?_, ?_⟩
      · exact isChild_of_isKey hkey (by decide) directory
      · rw [draftFor_dataFile hkey]
        exact isChild_of_isKey hkey (by decide) directory
  · intro key other path path' hpath hpath'
    obtain ⟨-, rfl, hdraft⟩ := hfile key path hpath
    obtain ⟨-, rfl, hdraft'⟩ := hfile other path' hpath'
    rw [hdraft, hdraft']
    exact ⟨fun hne => ⟨mt dataFile_inj.1 hne, mt draftFile_inj.1 hne⟩,
      (dataFile_ne_draftFile directory other key).symm⟩
  · show write _ key text = _
    rw [write, he]
  · obtain ⟨hkey, rfl, hdraft⟩ := hfile key path hpath
    rw [journal_write hkey, hdraft]

/-- Two keys of which one ends like a file of the other, in a directory that ends in a slash. -/
theorem keys_confined_saves :
    pathFor "saves/" "v1" = .ok "saves/v1.json" ∧ pathFor "saves/" "v1.json" = .ok "saves/v1.json.json" ∧
      IsChild "saves/" "v1.json.tmp" (draftFor "saves/v1.json") ∧
      draftFor "saves/v1.json" ≠ draftFor "saves/v1.json.json" ∧ draftFor "saves/v1.json" ≠ "saves/v1.json.json" := by
  have hshort : pathFor "saves/" "v1" = .ok "saves/v1.json" := by rfl
  have hlong : pathFor "saves/" "v1.json" = .ok "saves/v1.json.json" := by rfl
  obtain ⟨hkeys, hapart, -⟩ := keys_confined "saves/"
  obtain ⟨hfiles, hdraft⟩ := hapart "v1" "v1.json" _ _ hshort hlong
  refine ⟨hshort, hlong, ?_, (hfiles (by decide)).2, hdraft⟩
  rcases hkeys "v1" with ⟨-, hrefused⟩ | ⟨-, path, hpath, -, hchild⟩
  · cases hshort.symm.trans hrefused
  · cases hshort.symm.trans hpath
    exact hchild

end FileStore

end VisualNovel
