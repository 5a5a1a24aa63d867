/-
  VisualNovel.Proofs.Store.FileNames

  The two files that a store has for a key, in its directory: the one that holds
  the text (`dataFile`) and the one that a new text is written to first
  (`draftFile`). The draft's path is made from the other one by replacing what
  follows the last dot, which gives the whole key back, whatever dots are in it
  (`draftFor_dataFile`). No two of these files are the same: neither those of
  different keys, nor the draft of one key and the data file of another.
-/

import VisualNovel.Store.File

namespace VisualNovel

/-! ## Paths in a directory -/

/-- What stands before every name in a directory. -/
def directoryPrefix (directory : String) : String :=
  if directory = "" then ""
  else if directory.toList.getLast? = some '/' then directory
  else directory ++ "/"

theorem childPath_eq (directory name : String) :
    childPath directory name = directoryPrefix directory ++ name := by
  rw [childPath, directoryPrefix]
  split
  · exact String.empty_append.symm
  · split
    · rfl
    · rfl

/-- Different names have different paths. -/
theorem childPath_inj {directory name other : String} :
    childPath directory name = childPath directory other ↔ name = other := by
  rw [childPath_eq, childPath_eq, String.append_right_inj]

/-- From the end, a path has its name and then a slash, or nothing more. -/
theorem takeWhile_reverse_directoryPrefix (directory : String) :
    (directoryPrefix directory).toList.reverse.takeWhile (· != '/') = [] := by
  rw [directoryPrefix]
  split
  · rfl
  · split
    · next hlast =>
      obtain ⟨before, hbefore⟩ := List.getLast?_eq_some_iff.1 hlast
      rw [hbefore, List.reverse_append]
      rfl
    · rw [String.toList_append, List.reverse_append]
      rfl

/-- Of a name with a stem, what follows its last dot is replaced. -/
theorem withExtension_childPath {stem old : List Char} (hstem : stem ≠ []) (hstemSlash : '/' ∉ stem)
    (holdSlash : '/' ∉ old) (holdDot : '.' ∉ old) (directory extension : String) :
    withExtension (childPath directory (.ofList (stem ++ '.' :: old))) extension =
      childPath directory (.ofList stem ++ "." ++ extension) := by
  have hreversed : (childPath directory (.ofList (stem ++ '.' :: old))).toList.reverse =
      (old.reverse ++ '.' :: stem.reverse) ++ (directoryPrefix directory).toList.reverse := by
    rw [childPath_eq, String.toList_append, String.toList_ofList]
    simp
  -- The name goes back to the first slash, the extension to the first dot.
  have hname : ((old.reverse ++ '.' :: stem.reverse) ++
      (directoryPrefix directory).toList.reverse).takeWhile (· != '/') =
      old.reverse ++ '.' :: stem.reverse := by
    rw [List.takeWhile_append_of_pos, takeWhile_reverse_directoryPrefix, List.append_nil]
    intro c hc
    have hslash : '/' ∉ old.reverse ++ '.' :: stem.reverse := by simp [hstemSlash, holdSlash]
    simpa using ne_of_mem_of_not_mem hc hslash
  have hold : (old.reverse ++ '.' :: stem.reverse).takeWhile (· != '.') = old.reverse := by
    rw [List.takeWhile_append_of_pos, List.takeWhile_cons_of_neg (by simp), List.append_nil]
    intro c hc
    have hdot : '.' ∉ old.reverse := by simpa using holdDot
    simpa using ne_of_mem_of_not_mem hc hdot
  have hlong : ¬ (old.reverse ++ '.' :: stem.reverse).length ≤ old.reverse.length + 1 := by
    have hlength := List.length_pos_iff.2 hstem
    simp only [List.length_append, List.length_cons, List.length_reverse]
    omega
  have hdrop : ((old.reverse ++ '.' :: stem.reverse) ++
      (directoryPrefix directory).toList.reverse).drop (old.reverse.length + 1) =
      ((directoryPrefix directory).toList ++ stem).reverse := by
    rw [List.append_cons, List.append_assoc, List.drop_left' (by simp), List.reverse_append]
  simp only [withExtension, hreversed, hname, hold, if_neg hlong, hdrop, List.reverse_reverse]
  rw [childPath_eq, ← String.toList_inj]
  simp

/-! ## The files of a key -/

namespace FileStore

/-- The file that holds the text of a key. -/
def dataFile (directory key : String) : String :=
  childPath directory (key ++ ".json")

/-- The file that a new text of a key is written to before it replaces the old one. -/
def draftFile (directory key : String) : String :=
  childPath directory (key ++ ".json.tmp")

theorem pathFor_of_isKey {key : String} (h : isKey key = true) (directory : String) :
    pathFor directory key = .ok (dataFile directory key) :=
  if_pos h

theorem pathFor_of_not_isKey {key : String} (h : isKey key = false) (directory : String) :
    pathFor directory key = .error (.invalidKey key) := by
  rw [pathFor, h]
  rfl

/-- A key is no empty name, and there is no slash in it. -/
theorem ne_nil_of_isKey {key : String} (h : isKey key = true) :
    key.toList ≠ [] ∧ '/' ∉ key.toList := by
  simp only [isKey, Bool.and_eq_true, bne_iff_ne, List.all_eq_true] at h
  obtain ⟨⟨hne, hchars⟩, -⟩ := h
  constructor
  · intro hnil
    apply hne
    rw [← String.toList_inj, hnil]
    rfl
  · intro hslash
    exact absurd (hchars '/' hslash) (by decide)

/-- The draft of a key's file is the key's draft. -/
theorem draftFor_dataFile {key : String} (h : isKey key = true) (directory : String) :
    draftFor (dataFile directory key) = draftFile directory key := by
  obtain ⟨hne, hslash⟩ := ne_nil_of_isKey h
  have hname : key ++ ".json" = .ofList (key.toList ++ '.' :: "json".toList) := by
    rw [← String.toList_inj, String.toList_append]
    simp
  have hdraft : String.ofList key.toList ++ "." ++ "json.tmp" = key ++ ".json.tmp" := by
    rw [String.ofList_toList, String.append_assoc]
    rfl
  rw [draftFor, dataFile, hname, withExtension_childPath hne hslash (by decide) (by decide), hdraft,
    draftFile]

theorem dataFile_inj {directory key other : String} :
    dataFile directory key = dataFile directory other ↔ key = other := by
  rw [dataFile, dataFile, childPath_inj, String.append_left_inj]

theorem draftFile_inj {directory key other : String} :
    draftFile directory key = draftFile directory other ↔ key = other := by
  rw [draftFile, draftFile, childPath_inj, String.append_left_inj]

/-- No draft is the data file of a key, as the last letters of their names differ. -/
theorem dataFile_ne_draftFile (directory key other : String) :
    dataFile directory key ≠ draftFile directory other := by
  rw [dataFile, draftFile, ne_eq, childPath_inj, ← String.toList_inj]
  intro heq
  have hlast := congrArg List.getLast? heq
  simp [String.toList_append] at hlast

end FileStore

end VisualNovel
