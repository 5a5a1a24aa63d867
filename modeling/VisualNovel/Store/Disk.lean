/-
  VisualNovel.Store.Disk

  A volume that answers from files read beforehand and keeps a journal of the
  changes made to it, so that they can be made on a real disk in the same order.
-/

import VisualNovel.Store.Volume

namespace VisualNovel

/-- A change of a disk. -/
inductive DiskChange
  | makeDirectories (path : String)
  | writeText (path text : String)
  | rename (path newPath : String)
  deriving DecidableEq, Repr

/-- Files with their texts, and the changes made so far. -/
structure Disk where
  /-- What reading a path gives, the latest first; a path that is missing is not found. -/
  files : List (String × Except IoError String)
  /-- The changes in order. -/
  journal : List DiskChange := []

namespace Disk

/-- The text of a file. -/
def readText (d : Disk) (path : String) : Except IoError String :=
  (d.files.lookup path).getD (.error .notFound)

/-- Notes a change and what reading gives after it. -/
def change (d : Disk) (c : DiskChange) (files : List (String × Except IoError String)) : Disk :=
  { files := files ++ d.files, journal := d.journal ++ [c] }

/-- Gives a file another name. -/
def rename (d : Disk) (path newPath : String) : Except IoError Unit × Disk :=
  match d.readText path with
  | .error e => (.error e, d)
  | .ok text => (.ok (), d.change (.rename path newPath) [(path, .error .notFound), (newPath, .ok text)])

instance : Volume Disk where
  readText := readText
  makeDirectories d path := (.ok (), d.change (.makeDirectories path) [])
  writeText d path text := (.ok (), d.change (.writeText path text) [(path, .ok text)])
  rename := rename

end Disk

end VisualNovel
