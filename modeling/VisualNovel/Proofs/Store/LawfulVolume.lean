/-
  VisualNovel.Proofs.Store.LawfulVolume

  Stores of files, from what they may rely on. `LawfulVolume` says what the calls on
  files promise when they succeed and when they fail; a failed call may spoil the
  file it was writing, but no other. That is enough for a store of files: a write
  of a key is read back or has no effect (`read_of_write_ok`,
  `read_of_write_error`), since nothing but drafts is ever half written.
-/

import VisualNovel.Proofs.Store.Durable
import VisualNovel.Proofs.Store.FileNames
import VisualNovel.Store.Disk

namespace VisualNovel

/-! ## Laws -/

/-- What the calls on the files of a volume do to the texts that are read from it. -/
class LawfulVolume (σ : Type) [Volume σ] : Prop where
  /-- To make directories changes no file. -/
  readText_of_makeDirectories {v v' : σ} {path : String} {result : Except IoError Unit} :
    Volume.makeDirectories v path = (result, v') → ∀ other, Volume.readText v' other = Volume.readText v other
  readText_of_written {v v' : σ} {path text : String} :
    Volume.writeText v path text = (.ok (), v') → Volume.readText v' path = .ok text
  /-- Other files stay as they were, whether or not the text was written. -/
  readText_of_writeText {v v' : σ} {path text : String} {result : Except IoError Unit} :
    Volume.writeText v path text = (result, v') →
      ∀ other, other ≠ path → Volume.readText v' other = Volume.readText v other
  readText_of_renamed {v v' : σ} {path newPath : String} : path ≠ newPath →
    Volume.rename v path newPath = (.ok (), v') →
      Volume.readText v' newPath = Volume.readText v path ∧ Volume.readText v' path = .error .notFound ∧
      ∀ other, other ≠ path → other ≠ newPath → Volume.readText v' other = Volume.readText v other
  /-- If a file cannot be renamed, all stay as they were. -/
  readText_of_not_renamed {v v' : σ} {path newPath : String} {e : IoError} :
    Volume.rename v path newPath = (.error e, v') →
      ∀ other, Volume.readText v' other = Volume.readText v other

namespace Disk

theorem readText_change (d : Disk) (c : DiskChange) (files : List (String × Except IoError String))
    (path : String) :
    (d.change c files).readText path = ((files.lookup path).or (d.files.lookup path)).getD (.error .notFound) := by
  rw [readText, change, List.lookup_append]

/-- A disk that answers from what was read beforehand is lawful. -/
instance : LawfulVolume Disk where
  readText_of_makeDirectories := by
    rintro d d' path result hmade other
    cases hmade
    rfl
  readText_of_written := by
    rintro d d' path text hwritten
    cases hwritten
    show readText _ path = _
    rw [readText_change, List.lookup_cons_self]
    rfl
  readText_of_writeText := by
    rintro d d' path text result hwritten other hother
    cases hwritten
    show readText _ other = _
    rw [readText_change, List.lookup_cons, beq_false_of_ne hother]
    rfl
  readText_of_renamed := by
    rintro d d' path newPath hne hrenamed
    simp only [Volume.rename, rename] at hrenamed
    split at hrenamed
    · cases hrenamed
    · next text htext =>
      cases hrenamed
      refine ⟨?_, ?_, fun other hpath hnew => ?_⟩
      · show readText _ newPath = d.readText path
        rw [readText_change, List.lookup_cons, beq_false_of_ne hne.symm, List.lookup_cons_self, htext]
        rfl
      · show readText _ path = _
        rw [readText_change, List.lookup_cons_self]
        rfl
      · show readText _ other = _
        rw [readText_change, List.lookup_cons, beq_false_of_ne hpath, List.lookup_cons,
          beq_false_of_ne hnew]
        rfl
  readText_of_not_renamed := by
    rintro d d' path newPath e hfailed other
    simp only [Volume.rename, rename] at hfailed
    split at hfailed
    · cases hfailed
      rfl
    · cases hfailed

end Disk

/-! ## Replacing a file -/

namespace FileStore

section Replacing

variable {σ : Type} [Volume σ]

/-- A file has a new text; its draft is gone, and every other file is as it was. -/
structure Replaced (path text : String) (before after : σ) : Prop where
  text_eq : Volume.readText after path = .ok text
  draft_gone : Volume.readText after (draftFor path) = .error .notFound
  others : ∀ other, other ≠ path → other ≠ draftFor path →
    Volume.readText after other = Volume.readText before other

/-- **Replacing a file.** It is replaced as a whole, or nothing but its draft is changed. -/
theorem replaceFile_cases [LawfulVolume σ] (directory : String) {path : String}
    (hne : draftFor path ≠ path) (text : String) (v : σ) :
    (∃ v', replaceFile directory path text v = (.ok (), v') ∧ Replaced path text v v') ∨
    ∃ e v', replaceFile directory path text v = (.error e, v') ∧
      ∀ other, other ≠ draftFor path → Volume.readText v' other = Volume.readText v other := by
  rw [replaceFile]
  rcases hmade : Volume.makeDirectories v directory with ⟨result, v₁⟩
  have hkept₁ := LawfulVolume.readText_of_makeDirectories hmade
  cases result with
  | error e => exact .inr ⟨e, v₁, rfl, fun other _ => hkept₁ other⟩
  | ok u =>
    rw [afterwards]
    rcases hwritten : Volume.writeText v₁ (draftFor path) text with ⟨result, v₂⟩
    have hkept₂ : ∀ other, other ≠ draftFor path →
        Volume.readText v₂ other = Volume.readText v other := fun other hother =>
      (LawfulVolume.readText_of_writeText hwritten other hother).trans (hkept₁ other)
    cases result with
    | error e => exact .inr ⟨e, v₂, rfl, hkept₂⟩
    | ok u =>
      rw [afterwards]
      rcases hrenamed : Volume.rename v₂ (draftFor path) path with ⟨result, v₃⟩
      cases result with
      | error e =>
        refine .inr ⟨e, v₃, rfl, fun other hother => ?_⟩
        exact (LawfulVolume.readText_of_not_renamed hrenamed other).trans (hkept₂ other hother)
      | ok u =>
        obtain ⟨htext, hgone, hothers⟩ := LawfulVolume.readText_of_renamed hne hrenamed
        refine .inl ⟨v₃, rfl, htext.trans (LawfulVolume.readText_of_written hwritten), hgone, ?_⟩
        intro other hpath hdraft
        exact (hothers other hdraft hpath).trans (hkept₂ other hdraft)

end Replacing

/-! ## Writing a key -/

section Writing

variable {σ : Type} [Volume σ] {s t : FileStore σ} {key text : String}

/-- What is read under a key is up to the data file of the key. -/
theorem read_congr (hdirectory : t.directory = s.directory)
    (h : Volume.readText t.volume (dataFile s.directory key) =
      Volume.readText s.volume (dataFile s.directory key)) :
    LedgerStore.read t key = LedgerStore.read s key := by
  show read t key = read s key
  rw [read, read, hdirectory]
  cases hkey : isKey key with
  | false =>
    rw [pathFor_of_not_isKey hkey]
    rfl
  | true =>
    rw [pathFor_of_isKey hkey]
    simp only [Except.bind, h]

theorem write_of_not_isKey (h : isKey key = false) (s : FileStore σ) (text : String) :
    LedgerStore.write s key text = (.error (.invalidKey key), s) := by
  show write s key text = _
  rw [write, pathFor_of_not_isKey h]

theorem write_of_isKey (h : isKey key = true) (s : FileStore σ) (text : String) :
    LedgerStore.write s key text =
      ((replaceFile s.directory (dataFile s.directory key) text s.volume).1.mapError .io,
        { s with volume := (replaceFile s.directory (dataFile s.directory key) text s.volume).2 }) := by
  show write s key text = _
  rw [write, pathFor_of_isKey h]

variable [LawfulVolume σ]

/-- A key is refused, or its file is replaced, or nothing but its draft is changed. -/
theorem write_cases (s : FileStore σ) (key text : String) :
    (isKey key = false ∧ LedgerStore.write s key text = (.error (.invalidKey key), s)) ∨
    (isKey key = true ∧ ∃ v, LedgerStore.write s key text = (.ok (), { s with volume := v }) ∧
      Replaced (dataFile s.directory key) text s.volume v) ∨
    (isKey key = true ∧ ∃ e v, LedgerStore.write s key text = (.error (.io e), { s with volume := v }) ∧
      ∀ other, other ≠ draftFile s.directory key →
        Volume.readText v other = Volume.readText s.volume other) := by
  cases hkey : isKey key with
  | false => exact .inl ⟨rfl, write_of_not_isKey hkey s text⟩
  | true =>
    have hdraft := draftFor_dataFile hkey s.directory
    have hne : draftFor (dataFile s.directory key) ≠ dataFile s.directory key := by
      rw [hdraft]
      exact (dataFile_ne_draftFile s.directory key key).symm
    rcases replaceFile_cases s.directory hne text s.volume with ⟨v, hok, hreplaced⟩ | ⟨e, v, hfailed, hkept⟩
    · rw [write_of_isKey hkey, hok]
      exact .inr (.inl ⟨rfl, v, rfl, hreplaced⟩)
    · rw [write_of_isKey hkey, hfailed]
      rw [hdraft] at hkept
      exact .inr (.inr ⟨rfl, e, v, rfl, hkept⟩)

/-- A write that succeeds is read back and leaves every other key as it was. -/
theorem read_of_write_ok (h : LedgerStore.write s key text = (.ok (), t)) :
    LedgerStore.read t key = .ok (some text) ∧
      ∀ other, other ≠ key → LedgerStore.read t other = LedgerStore.read s other := by
  rcases s.write_cases key text with ⟨-, hw⟩ | ⟨hkey, v, hw, hreplaced⟩ | ⟨-, e, v, hw, -⟩
  · cases hw.symm.trans h
  · cases hw.symm.trans h
    constructor
    · show read _ key = _
      rw [read, pathFor_of_isKey hkey]
      simp only [Except.bind, hreplaced.text_eq]
    · intro other hother
      apply read_congr
      · rfl
      · apply hreplaced.others
        · exact mt dataFile_inj.1 hother
        · rw [draftFor_dataFile hkey]
          exact dataFile_ne_draftFile s.directory other key
  · cases hw.symm.trans h

/-- A write that fails has no effect on what is read. -/
theorem read_of_write_error {e : StoreError} (h : LedgerStore.write s key text = (.error e, t))
    (other : String) : LedgerStore.read t other = LedgerStore.read s other := by
  rcases s.write_cases key text with ⟨-, hw⟩ | ⟨-, v, hw, -⟩ | ⟨-, e', v, hw, hkept⟩
  · cases hw.symm.trans h
    rfl
  · cases hw.symm.trans h
  · cases hw.symm.trans h
    apply read_congr
    · rfl
    · exact hkept _ (dataFile_ne_draftFile s.directory other key)

/-- A store of files keeps what is written under a key. -/
theorem keeps (s : FileStore σ) (key : String) : LedgerStore.Keeps key s where
  stored _ _ _ h := (read_of_write_ok h).1
  unchanged _ _ _ _ h := read_of_write_error h key

end Writing

end FileStore

end VisualNovel
