/-
  VisualNovel.Store.File

  A store that keeps each text in a file of its own, named for the key, in one
  directory. A key is a plain file name. A text is written beside its file first
  and then renamed over it, so the file holds either the old text or the new one.
-/

import VisualNovel.Store.Volume

namespace VisualNovel

/-! ## Paths -/

/-- The path of a name in a directory. -/
def childPath (directory name : String) : String :=
  if directory = "" then name
  else if directory.toList.getLast? = some '/' then directory ++ name
  else directory ++ "/" ++ name

/-- A path with another extension: what follows the last dot of its last name is replaced. -/
def withExtension (path extension : String) : String :=
  let reversed := path.toList.reverse
  -- From the end: the last name, and in it what stands behind its last dot.
  let name := reversed.takeWhile (· != '/')
  let old := name.takeWhile (· != '.')
  -- A name without a dot, or with none but its first character, has no extension.
  let stem := if name.length ≤ old.length + 1 then reversed else reversed.drop (old.length + 1)
  .ofList stem.reverse ++ "." ++ extension

/-! ## The store -/

/-- A store in a directory of a volume. -/
structure FileStore (σ : Type) where
  volume : σ
  directory : String
  deriving DecidableEq, Repr

namespace FileStore

/-- Whether a character may stand in a key. -/
def isKeyChar (c : Char) : Bool :=
  c.isAlphanum || c == '-' || c == '_' || c == '.'

/-- Whether a key can be stored: a file name of plain characters that is not hidden. -/
def isKey (key : String) : Bool :=
  key != "" && key.toList.all isKeyChar && key.toList.head? != some '.'

/-- The file of a key in a directory. -/
def pathFor (directory key : String) : Except StoreError String :=
  if isKey key then .ok (childPath directory (key ++ ".json")) else .error (.invalidKey key)

/-- The file that a text is written to before it replaces a file. -/
def draftFor (path : String) : String :=
  withExtension path "json.tmp"

variable {σ : Type} [Volume σ]

/-- The text in the file of a key; none if there is no such file. -/
def read (s : FileStore σ) (key : String) : Except StoreError (Option String) :=
  (pathFor s.directory key).bind fun path =>
    match Volume.readText s.volume path with
    | .ok text => .ok (some text)
    | .error .notFound => .ok none
    | .error e => .error (.io e)

/-- Goes on with the new volume if a step succeeded. -/
def afterwards (step : Except IoError Unit × σ) (next : σ → Except IoError Unit × σ) :
    Except IoError Unit × σ :=
  match step with
  | (.ok (), volume) => next volume
  | (.error e, volume) => (.error e, volume)

/-- Replaces a file by way of its draft. -/
def replaceFile (directory path text : String) (volume : σ) : Except IoError Unit × σ :=
  afterwards (Volume.makeDirectories volume directory) fun volume =>
    afterwards (Volume.writeText volume (draftFor path) text) fun volume =>
      Volume.rename volume (draftFor path) path

/-- Writes a text to the file of a key. -/
def write (s : FileStore σ) (key text : String) : Except StoreError Unit × FileStore σ :=
  match pathFor s.directory key with
  | .error e => (.error e, s)
  | .ok path =>
    let (result, volume) := replaceFile s.directory path text s.volume
    (result.mapError .io, { s with volume })

instance : LedgerStore (FileStore σ) := ⟨read, write⟩

end FileStore

end VisualNovel
