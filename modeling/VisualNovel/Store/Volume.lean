/-
  VisualNovel.Store.Volume

  The operations on files that a store needs. A volume is any type with these
  operations; one that fails may still change the volume, so the new volume comes
  with either result.
-/

import VisualNovel.Store.Basic

namespace VisualNovel

/-- A place for files. -/
class Volume (σ : Type) where
  /-- The text of a file. -/
  readText : σ → (path : String) → Except IoError String
  /-- Makes a directory and those it lies in, as far as they are missing. -/
  makeDirectories : σ → (path : String) → Except IoError Unit × σ
  /-- Puts a text into a file, in place of any other. -/
  writeText : σ → (path text : String) → Except IoError Unit × σ
  /-- Gives a file another name, in place of any other file of that name. -/
  rename : σ → (path newPath : String) → Except IoError Unit × σ

end VisualNovel
