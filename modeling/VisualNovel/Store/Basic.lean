/-
  VisualNovel.Store.Basic

  Stores of saves: texts under keys. A store is any type with the two operations
  of `LedgerStore`; a write that fails may still change the store, so the new
  store comes with either result.
-/

namespace VisualNovel

/-- Why an operation on files failed. -/
inductive IoError
  | notFound
  | exists
  | notDirectory
  | isDirectory
  | nameTooLong
  | device
  | notText
  /-- Any other cause, in the words of the system. -/
  | other (words : String)
  deriving DecidableEq, Repr

/-- The wording of an error. -/
def IoError.message : IoError → String
  | .notFound => "No such file or directory (os error 2)"
  | .exists => "File exists (os error 17)"
  | .notDirectory => "Not a directory (os error 20)"
  | .isDirectory => "Is a directory (os error 21)"
  | .nameTooLong => "File name too long (os error 36)"
  | .device => "Input/output error (os error 5)"
  | .notText => "stream did not contain valid UTF-8"
  | .other words => words

/-- Why a store did not read or write. -/
inductive StoreError
  | io (e : IoError)
  | invalidKey (key : String)
  deriving DecidableEq, Repr

/-- The wording of an error. -/
def StoreError.message : StoreError → String
  | .io e => e.message
  | .invalidKey key => "invalid store key: \"" ++ key ++ "\""

/-- A store of texts under keys. -/
class LedgerStore (σ : Type) where
  /-- The text under a key, if there is one. -/
  read : σ → (key : String) → Except StoreError (Option String)
  /-- Stores a text under a key, in place of any other. -/
  write : σ → (key value : String) → Except StoreError Unit × σ

end VisualNovel
