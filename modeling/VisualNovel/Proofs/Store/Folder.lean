/-
  VisualNovel.Proofs.Store.Folder

  Files under their paths, with calls that fail as was decided beforehand
  (`Folder`). A call that fails leaves all files as they were, except that a text
  which is not written may leave anything behind in the file it was for.

  A store of files in a folder is a map from keys to texts, whatever calls fail
  (`FileStore.atomic`): a write is seen as a whole or not at all, and while no call
  fails the store is no different from one in memory.
-/

import VisualNovel.Proofs.NameMap
import VisualNovel.Proofs.Store.LawfulVolume

namespace VisualNovel

/-! ## Folders -/

/-- How a call on files fails. -/
structure Fault where
  error : IoError
  /-- What a file has in it that could not be written; without it the file stays as it was. -/
  debris : Option ByteArray := none

/-- Files under their paths. Some of the calls on them fail. -/
structure Folder where
  files : NameMap ByteArray
  /-- What is wrong with the call that comes after so many others. -/
  fault : Nat → Option Fault
  /-- Number of calls so far that were to change files. -/
  calls : Nat := 0

namespace Folder

/-- Makes a call, which changes the files in one way or, if it has a fault, in another. -/
def call (f : Folder) (failed : Fault → NameMap ByteArray) (done : Except IoError Unit × NameMap ByteArray) :
    Except IoError Unit × Folder :=
  match f.fault f.calls with
  | some fault => (.error fault.error, { f with files := failed fault, calls := f.calls + 1 })
  | none => (done.1, { f with files := done.2, calls := f.calls + 1 })

/-- The text of a file. -/
def readText (f : Folder) (path : String) : Except IoError String :=
  match f.files.get? path with
  | none => .error .notFound
  | some content =>
    match String.fromUTF8? content with
    | some text => .ok text
    | none => .error .notText

/-- Puts a text into a file. -/
def writeText (f : Folder) (path text : String) : Except IoError Unit × Folder :=
  f.call (fun fault => (fault.debris.map (f.files.insert path)).getD f.files)
    (.ok (), f.files.insert path text.toUTF8)

/-- Gives a file another name. -/
def rename (f : Folder) (path newPath : String) : Except IoError Unit × Folder :=
  f.call (fun _ => f.files) <|
    match f.files.get? path with
    | none => (.error .notFound, f.files)
    | some content => (.ok (), (f.files.erase path).insert newPath content)

instance : Volume Folder where
  readText := readText
  makeDirectories f _ := f.call (fun _ => f.files) (.ok (), f.files)
  writeText := writeText
  rename := rename

variable {f g : Folder} {path newPath : String}

/-! ## What a call does -/

theorem call_cases (f : Folder) (failed : Fault → NameMap ByteArray)
    (done : Except IoError Unit × NameMap ByteArray) :
    (∃ fault, f.fault f.calls = some fault ∧
      f.call failed done = (.error fault.error, { f with files := failed fault, calls := f.calls + 1 })) ∨
    (f.fault f.calls = none ∧
      f.call failed done = (done.1, { f with files := done.2, calls := f.calls + 1 })) := by
  rw [call]
  cases f.fault f.calls with
  | some fault => exact .inl ⟨fault, rfl, rfl⟩
  | none => exact .inr ⟨rfl, rfl⟩

theorem makeDirectories_cases (f : Folder) (path : String) :
    (∃ fault, f.fault f.calls = some fault ∧
      Volume.makeDirectories f path = (.error fault.error, { f with calls := f.calls + 1 })) ∨
    (f.fault f.calls = none ∧ Volume.makeDirectories f path = (.ok (), { f with calls := f.calls + 1 })) :=
  f.call_cases ..

theorem writeText_cases (f : Folder) (path text : String) :
    (∃ fault, f.fault f.calls = some fault ∧ Volume.writeText f path text = (.error fault.error,
      { f with files := (fault.debris.map (f.files.insert path)).getD f.files, calls := f.calls + 1 })) ∨
    (f.fault f.calls = none ∧ Volume.writeText f path text =
      (.ok (), { f with files := f.files.insert path text.toUTF8, calls := f.calls + 1 })) :=
  f.call_cases ..

theorem rename_cases (f : Folder) (path newPath : String) :
    (∃ fault, f.fault f.calls = some fault ∧
      Volume.rename f path newPath = (.error fault.error, { f with calls := f.calls + 1 })) ∨
    (f.files.get? path = none ∧
      Volume.rename f path newPath = (.error .notFound, { f with calls := f.calls + 1 })) ∨
    ∃ content, f.files.get? path = some content ∧ Volume.rename f path newPath =
      (.ok (), { f with files := (f.files.erase path).insert newPath content, calls := f.calls + 1 }) := by
  show (∃ fault, _ ∧ rename f path newPath = _) ∨ (_ ∧ rename f path newPath = _) ∨
    ∃ content, _ ∧ rename f path newPath = _
  rw [rename]
  rcases f.call_cases _ _ with hfailed | ⟨-, hdone⟩
  · exact .inl hfailed
  · right
    rw [hdone]
    cases f.files.get? path with
    | none => exact .inl ⟨rfl, rfl⟩
    | some content => exact .inr ⟨content, rfl, rfl⟩

/-! ## What is read -/

/-- Reading depends on the one file only. -/
theorem readText_congr {other : String} (h : g.files.get? other = f.files.get? path) :
    Volume.readText g other = Volume.readText f path := by
  show readText g other = readText f path
  rw [readText, readText, h]

theorem readText_of_get? {text : String} (h : f.files.get? path = some text.toUTF8) :
    Volume.readText f path = .ok text := by
  have hvalid : String.fromUTF8? text.toUTF8 = some text := dif_pos text.isValidUTF8
  show readText f path = _
  simp only [readText, h, hvalid]

/-- A file is not found if and only if it is not there; what is no text is found. -/
theorem readText_eq_notFound_iff :
    Volume.readText f path = .error .notFound ↔ f.files.get? path = none := by
  show readText f path = _ ↔ _
  rw [readText]
  cases f.files.get? path with
  | none => exact iff_of_true rfl rfl
  | some content =>
    cases hcontent : String.fromUTF8? content with
    | some text => simp [hcontent]
    | none => simp [hcontent]

/-- **A folder is lawful**, whichever of its calls fail. -/
instance : LawfulVolume Folder where
  readText_of_makeDirectories := by
    intro f g path result hmade other
    rcases f.makeDirectories_cases path with ⟨fault, -, hcall⟩ | ⟨-, hcall⟩
    · cases hcall.symm.trans hmade
      exact readText_congr rfl
    · cases hcall.symm.trans hmade
      exact readText_congr rfl
  readText_of_written := by
    intro f g path text hwritten
    rcases f.writeText_cases path text with ⟨fault, -, hcall⟩ | ⟨-, hcall⟩
    · cases hcall.symm.trans hwritten
    · cases hcall.symm.trans hwritten
      apply readText_of_get?
      rw [NameMap.get?_insert, if_pos rfl]
  readText_of_writeText := by
    intro f g path text result hwritten other hother
    have hkept : ∀ content, (f.files.insert path content).get? other = f.files.get? other := by
      intro content
      rw [NameMap.get?_insert, if_neg hother]
    rcases f.writeText_cases path text with ⟨fault, -, hcall⟩ | ⟨-, hcall⟩
    · -- Whatever was left behind is in the file that was to be written.
      cases hcall.symm.trans hwritten
      apply readText_congr
      cases fault.debris with
      | none => rfl
      | some content => exact hkept content
    · cases hcall.symm.trans hwritten
      exact readText_congr (hkept _)
  readText_of_renamed := by
    intro f g path newPath hne hrenamed
    rcases f.rename_cases path newPath with ⟨fault, -, hcall⟩ | ⟨-, hcall⟩ | ⟨content, hcontent, hcall⟩
    · cases hcall.symm.trans hrenamed
    · cases hcall.symm.trans hrenamed
    · cases hcall.symm.trans hrenamed
      refine ⟨?_, ?_, fun other hpath hnew => ?_⟩
      · apply readText_congr
        rw [NameMap.get?_insert, if_pos rfl, hcontent]
      · apply readText_eq_notFound_iff.2
        rw [NameMap.get?_insert, if_neg hne, NameMap.get?_erase, if_pos rfl]
      · apply readText_congr
        rw [NameMap.get?_insert, if_neg hnew, NameMap.get?_erase, if_neg hpath]
  readText_of_not_renamed := by
    intro f g path newPath e hfailed other
    rcases f.rename_cases path newPath with ⟨fault, -, hcall⟩ | ⟨-, hcall⟩ | ⟨content, -, hcall⟩
    · cases hcall.symm.trans hfailed
      exact readText_congr rfl
    · cases hcall.symm.trans hfailed
      exact readText_congr rfl
    · cases hcall.symm.trans hfailed

/-! ## Calls without faults -/

/-- None of the calls fails that lead from one folder to a later one. -/
def Unfailing (f g : Folder) : Prop :=
  ∀ n, f.calls ≤ n → n < g.calls → f.fault n = none

/-- What came of some calls on a folder. The same ones are to fail, and if none did, all went well. -/
structure Served (f : Folder) (outcome : Except IoError Unit × Folder) : Prop where
  fault_eq : outcome.2.fault = f.fault
  calls_le : f.calls ≤ outcome.2.calls
  ok : f.Unfailing outcome.2 → outcome.1 = .ok ()

/-- A call with a fault is one that fails. -/
theorem served_of_fault {fault : Fault} (h : f.fault f.calls = some fault) (files : NameMap ByteArray) :
    f.Served (.error fault.error, { f with files, calls := f.calls + 1 }) where
  fault_eq := rfl
  calls_le := Nat.le_succ f.calls
  ok hunfailing := by
    have hnone := hunfailing f.calls (Nat.le_refl f.calls) (Nat.lt_succ_self f.calls)
    cases h.symm.trans hnone

theorem served_of_done (f : Folder) (files : NameMap ByteArray) :
    f.Served (.ok (), { f with files, calls := f.calls + 1 }) :=
  ⟨rfl, Nat.le_succ f.calls, fun _ => rfl⟩

theorem served_makeDirectories (f : Folder) (path : String) : f.Served (Volume.makeDirectories f path) := by
  rcases f.makeDirectories_cases path with ⟨fault, hfault, hcall⟩ | ⟨-, hcall⟩
  · rw [hcall]
    exact served_of_fault hfault _
  · rw [hcall]
    exact f.served_of_done _

theorem served_writeText (f : Folder) (path text : String) : f.Served (Volume.writeText f path text) := by
  rcases f.writeText_cases path text with ⟨fault, hfault, hcall⟩ | ⟨-, hcall⟩
  · rw [hcall]
    exact served_of_fault hfault _
  · rw [hcall]
    exact f.served_of_done _

/-- A file that is there can be renamed. -/
theorem served_rename (h : f.files.get? path ≠ none) (newPath : String) :
    f.Served (Volume.rename f path newPath) := by
  rcases f.rename_cases path newPath with ⟨fault, hfault, hcall⟩ | ⟨hmissing, -⟩ | ⟨content, -, hcall⟩
  · rw [hcall]
    exact served_of_fault hfault _
  · exact absurd hmissing h
  · rw [hcall]
    exact f.served_of_done _

theorem Served.afterwards {step : Except IoError Unit × Folder}
    {next : Folder → Except IoError Unit × Folder} (h : f.Served step)
    (hnext : ∀ g, step = (.ok (), g) → g.Served (next g)) :
    f.Served (FileStore.afterwards step next) := by
  obtain ⟨result, g⟩ := step
  cases result with
  | error e => exact h
  | ok u =>
    have hg := hnext g rfl
    refine ⟨hg.fault_eq.trans h.fault_eq, Nat.le_trans h.calls_le hg.calls_le, fun hunfailing => hg.ok ?_⟩
    intro n hn hlt
    rw [h.fault_eq]
    exact hunfailing n (Nat.le_trans h.calls_le hn) hlt

/-- Nothing but a failed call keeps a file from being replaced. -/
theorem served_replaceFile (f : Folder) (directory path text : String) :
    f.Served (FileStore.replaceFile directory path text f) := by
  apply (f.served_makeDirectories directory).afterwards
  intro g _
  apply (g.served_writeText (FileStore.draftFor path) text).afterwards
  intro h hwritten
  apply served_rename
  intro hmissing
  have hread := LawfulVolume.readText_of_written hwritten
  rw [readText_eq_notFound_iff.2 hmissing] at hread
  cases hread

end Folder

/-! ## Calls on a store -/

namespace LedgerStore

/-- What can be asked of a store. -/
inductive Call
  | read (key : String)
  | write (key value : String)
  deriving DecidableEq, Repr

variable {τ : Type} [LedgerStore τ]

/-- The store after a call, whatever came of it. -/
def Call.run (s : τ) : Call → τ
  | .read _ => s
  | .write key value => (LedgerStore.write s key value).2

/-- The store after some calls. -/
def runAll (s : τ) (calls : List Call) : τ :=
  calls.foldl Call.run s

end LedgerStore

open LedgerStore (Call runAll)

namespace FileStore

variable {s t : FileStore Folder} {key value : String}

/-- A later state of a store: it is in the same directory, where the same calls are to fail. -/
structure Precedes (s t : FileStore Folder) : Prop where
  directory_eq : t.directory = s.directory
  fault_eq : t.volume.fault = s.volume.fault
  calls_le : s.volume.calls ≤ t.volume.calls

theorem Precedes.refl (s : FileStore Folder) : s.Precedes s :=
  ⟨rfl, rfl, Nat.le_refl _⟩

theorem Precedes.trans {u : FileStore Folder} (h : s.Precedes t) (h' : t.Precedes u) : s.Precedes u :=
  ⟨h'.directory_eq.trans h.directory_eq, h'.fault_eq.trans h.fault_eq, Nat.le_trans h.calls_le h'.calls_le⟩

/-- If no call fails over the whole, none fails over a part. -/
theorem Precedes.unfailing {u : FileStore Folder} (h : s.Precedes t) (h' : t.Precedes u)
    (hunfailing : s.volume.Unfailing u.volume) :
    s.volume.Unfailing t.volume ∧ t.volume.Unfailing u.volume := by
  constructor
  · intro n hn hlt
    exact hunfailing n hn (Nat.lt_of_lt_of_le hlt h'.calls_le)
  · intro n hn hlt
    rw [h.fault_eq]
    exact hunfailing n (Nat.le_trans h.calls_le hn) hlt

theorem precedes_write (s : FileStore Folder) (key value : String) :
    s.Precedes (LedgerStore.write s key value).2 := by
  cases hkey : isKey key with
  | false =>
    rw [write_of_not_isKey hkey]
    exact .refl s
  | true =>
    have hserved := s.volume.served_replaceFile s.directory (dataFile s.directory key) value
    rw [write_of_isKey hkey]
    exact ⟨rfl, hserved.fault_eq, hserved.calls_le⟩

theorem precedes_runAll (s : FileStore Folder) (calls : List Call) : s.Precedes (runAll s calls) := by
  induction calls generalizing s with
  | nil => exact .refl s
  | cons call calls ih =>
    cases call with
    | read key => exact ih s
    | write key value => exact (s.precedes_write key value).trans (ih _)

/-- While no call fails, a key is refused or its file is replaced. -/
theorem write_unfailing (s : FileStore Folder) (key value : String)
    (h : s.volume.Unfailing (LedgerStore.write s key value).2.volume) :
    (isKey key = false ∧ LedgerStore.write s key value = (.error (.invalidKey key), s)) ∨
    (isKey key = true ∧ ∃ v, LedgerStore.write s key value = (.ok (), { s with volume := v }) ∧
      Replaced (dataFile s.directory key) value s.volume v) := by
  rcases s.write_cases key value with hrefused | hreplaced | ⟨hkey, e, v, hw, -⟩
  · exact .inl hrefused
  · exact .inr hreplaced
  · have hserved := s.volume.served_replaceFile s.directory (dataFile s.directory key) value
    have hwrite := write_of_isKey hkey s value
    rw [hwrite] at h
    rw [hwrite, hserved.ok h] at hw
    cases hw

/-- The draft of a key is not there any more. -/
def DraftGone (s : FileStore Folder) (key : String) : Prop :=
  s.volume.files.get? (draftFile s.directory key) = none

/-- A write without a failed call does the same as in memory, and no draft is left of it. -/
theorem write_in_step (h : s.volume.Unfailing (LedgerStore.write s key value).2.volume) {other : String}
    (hother : isKey other = true) :
    (∀ m : MemoryStore, LedgerStore.read s other = LedgerStore.read m other →
      LedgerStore.read (LedgerStore.write s key value).2 other =
        LedgerStore.read (LedgerStore.write m key value).2 other) ∧
    (s.DraftGone other ∨ other = key → (LedgerStore.write s key value).2.DraftGone other) := by
  rcases s.write_unfailing key value h with ⟨hkey, hw⟩ | ⟨hkey, v, hw, hreplaced⟩
  · -- What is refused here is stored in memory, but under no key.
    have hne : other ≠ key := by
      rintro rfl
      rw [hkey] at hother
      cases hother
    rw [hw]
    refine ⟨fun m hread => ?_, fun hgone => hgone.resolve_right hne⟩
    rw [MemoryStore.read_write, if_neg hne]
    exact hread
  · obtain ⟨hstored, hothers⟩ := read_of_write_ok hw
    have hdraft := draftFor_dataFile hkey s.directory
    rw [hw]
    constructor
    · intro m hread
      rw [MemoryStore.read_write]
      by_cases hne : other = key
      · rw [if_pos hne, hne]
        exact hstored
      · rw [if_neg hne]
        exact (hothers other hne).trans hread
    · intro hgone
      apply Folder.readText_eq_notFound_iff.1
      by_cases hne : other = key
      · rw [hne, ← hdraft]
        exact hreplaced.draft_gone
      · have hkept := hreplaced.others (draftFile s.directory other)
          (dataFile_ne_draftFile s.directory key other).symm (by rw [hdraft]; exact mt draftFile_inj.1 hne)
        exact hkept.trans (Folder.readText_eq_notFound_iff.2 (hgone.resolve_right hne))

/-- **Runs without a failed call.** What is read goes on as in memory, and no draft is left. -/
theorem runAll_in_step {calls : List Call} (h : s.volume.Unfailing (runAll s calls).volume)
    (hkey : isKey key = true) :
    (∀ m : MemoryStore, LedgerStore.read s key = LedgerStore.read m key →
      LedgerStore.read (runAll s calls) key = LedgerStore.read (runAll m calls) key) ∧
    ((s.DraftGone key ∨ ∃ value, Call.write key value ∈ calls) → (runAll s calls).DraftGone key) := by
  induction calls generalizing s with
  | nil => exact ⟨fun m hread => hread, fun hgone => hgone.resolve_right (by simp)⟩
  | cons call calls ih =>
    cases call with
    | read other =>
      obtain ⟨hread, hdraft⟩ := ih (s := s) h
      exact ⟨hread, fun hgone => hdraft (by simpa using hgone)⟩
    | write other value =>
      obtain ⟨hfirst, hrest⟩ := (s.precedes_write other value).unfailing (precedes_runAll _ calls) h
      obtain ⟨hread, hdraft⟩ := ih hrest
      obtain ⟨hreadStep, hdraftStep⟩ := write_in_step hfirst hkey
      refine ⟨fun m hsame => hread _ (hreadStep m hsame), fun hgone => hdraft ?_⟩
      rcases hgone with hgone | ⟨text, hmem⟩
      · exact .inl (hdraftStep (.inl hgone))
      · rcases List.mem_cons.1 hmem with heq | hmem
        · cases heq
          exact .inl (hdraftStep (.inr rfl))
        · exact .inr ⟨text, hmem⟩

/--
**A store of files is an atomic map.** Take a store in any folder, any calls on it, and whatever of the
calls on files is to fail. A write that succeeds is read back, and every other key is read as before. A
write that fails changes nothing of what is read. If no call on files failed so far, every key is read as
from a store in memory that began with the same text for it, and no draft is left of what was written.
-/
theorem atomic (s₀ : FileStore Folder) (calls : List Call) :
    let s := runAll s₀ calls
    (∀ key value t, LedgerStore.write s key value = (.ok (), t) →
      LedgerStore.read t key = .ok (some value) ∧
      ∀ other, other ≠ key → LedgerStore.read t other = LedgerStore.read s other) ∧
    (∀ key value e t, LedgerStore.write s key value = (.error e, t) →
      ∀ other, LedgerStore.read t other = LedgerStore.read s other) ∧
    (s₀.volume.Unfailing s.volume →
      (∀ (m : MemoryStore) (key : String), isKey key = true →
        LedgerStore.read s₀ key = LedgerStore.read m key →
        LedgerStore.read s key = LedgerStore.read (runAll m calls) key) ∧
      ∀ key value, Call.write key value ∈ calls → isKey key = true → s.DraftGone key) := by
  intro s
  refine ⟨fun key value t h => read_of_write_ok h, fun key value e t h => read_of_write_error h, ?_⟩
  intro hunfailing
  constructor
  · intro m key hkey hread
    exact (runAll_in_step hunfailing hkey).1 m hread
  · intro key value hmem hkey
    exact (runAll_in_step hunfailing hkey).2 (.inr ⟨value, hmem⟩)

/-- A store of one text. -/
def calm : FileStore Folder where
  volume :=
    { files := .ofList [("saves/endings.json", "before".toUTF8)]
      fault _ := none }
  directory := "saves"

/-- The same store, but its first draft is not written, and something else is left in it. -/
def spoilt : FileStore Folder where
  volume :=
    { files := .ofList [("saves/endings.json", "before".toUTF8)]
      fault n := if n = 1 then some ⟨.device, some "aft".toUTF8⟩ else none }
  directory := "saves"

/--
The text survives the write that fails, and the next write replaces it. Without a fault the first
write does so, as it would in memory.
-/
theorem atomic_endings :
    ((LedgerStore.write spoilt "endings" "after").1 = .error (.io .device) ∧
      LedgerStore.read (LedgerStore.write spoilt "endings" "after").2 "endings" = .ok (some "before")) ∧
    (let retried := LedgerStore.write (runAll spoilt [.write "endings" "after"]) "endings" "after"
    retried.1 = .ok () ∧ LedgerStore.read retried.2 "endings" = .ok (some "after")) ∧
    LedgerStore.read (runAll calm [.write "endings" "after"]) "endings" = .ok (some "after") ∧
      (runAll calm [.write "endings" "after"]).DraftGone "endings" := by
  have hbefore : LedgerStore.read spoilt "endings" = .ok (some "before") := by rfl
  have hfailed : (LedgerStore.write spoilt "endings" "after").1 = .error (.io .device) := by rfl
  have hok : (LedgerStore.write (runAll spoilt [.write "endings" "after"]) "endings" "after").1 = .ok () := by
    rfl
  refine ⟨⟨hfailed, ?_⟩, ⟨hok, ?_⟩, ?_⟩
  · have hkept := (atomic spoilt []).2.1 "endings" "after" (.io .device)
      (LedgerStore.write spoilt "endings" "after").2 (Prod.ext hfailed rfl) "endings"
    exact hkept.trans hbefore
  · exact ((atomic spoilt [.write "endings" "after"]).1 "endings" "after" _ (Prod.ext hok rfl)).1
  · have hkey : isKey "endings" = true := by decide +kernel
    have hbegin : LedgerStore.read calm "endings" =
        LedgerStore.read (⟨.ofList [("endings", "before")]⟩ : MemoryStore) "endings" := by
      rfl
    obtain ⟨hread, hgone⟩ := (atomic calm [.write "endings" "after"]).2.2 fun _ _ _ => rfl
    exact ⟨hread _ "endings" hkey hbegin, hgone "endings" "after" List.mem_cons_self hkey⟩

end FileStore

end VisualNovel
