/-
  VisualNovel.Store.FileTree

  A volume in memory: files and directories below a root, and a working directory
  that relative paths start from. A path is walked name by name; `.` and an empty
  name stay, `..` goes up, and only a directory can be walked through. A name has
  at most 255 bytes and a path at most 4095.
-/

import VisualNovel.NameMap
import VisualNovel.Store.Volume
import VisualNovel.Text.Lines

namespace VisualNovel

/-- A file or a directory. -/
inductive FileNode
  | text (s : String)
  /-- A file whose content is no text. -/
  | binary
  | directory
  deriving DecidableEq, Repr

/-- A place in a tree: the names that lead there from the root, the last one first. -/
abbrev Position := List String

/-- Files and directories. -/
structure FileTree where
  nodes : List (Position × FileNode)
  workingDirectory : Position
  deriving DecidableEq, Repr

namespace FileTree

/-- The tree that holds nothing but its working directory. -/
def empty : FileTree :=
  ⟨[(["home"], .directory)], ["home"]⟩

instance : Inhabited FileTree := ⟨empty⟩

/-- What stands at a position; the root is a directory. -/
def node? (t : FileTree) (p : Position) : Option FileNode :=
  if p = [] then some .directory else t.nodes.lookup p

/-- Puts something at a position, in place of anything else. -/
def set (t : FileTree) (p : Position) (n : FileNode) : FileTree :=
  { t with nodes := (p, n) :: t.nodes.filter fun e => e.1 ≠ p }

/-- Takes away what stands at a position. -/
def erase (t : FileTree) (p : Position) : FileTree :=
  { t with nodes := t.nodes.filter fun e => e.1 ≠ p }

/-! ## Walking -/

/-- The names in a path. -/
def names (path : String) : List String :=
  (Text.splitOn (· == '/') path.toList).map String.ofList

/-- Where the walk of a path starts. -/
def origin (t : FileTree) (path : String) : Position :=
  if path.toList.head? = some '/' then [] else t.workingDirectory

/-- Where a name leads from a directory, whether or not something stands there. -/
def follow (t : FileTree) (p : Position) (name : String) : Except IoError Position :=
  match t.node? p with
  | some .directory =>
    if name = "" ∨ name = "." then .ok p
    else if name = ".." then .ok p.tail
    else if name.utf8ByteSize ≤ 255 then .ok (name :: p)
    else .error .nameTooLong
  | some _ => .error .notDirectory
  | none => .error .notFound

/-- Where some names lead one after another. -/
def walk (t : FileTree) (p : Position) : List String → Except IoError Position
  | [] => .ok p
  | name :: rest => (t.follow p name).bind fun p => t.walk p rest

/-- Whether a path has more bytes than any operation takes. -/
def isTooLong (path : String) : Bool :=
  4095 < path.utf8ByteSize

/-- Where a path leads. -/
def locate (t : FileTree) (path : String) : Except IoError Position :=
  if path = "" then .error .notFound
  else if isTooLong path then .error .nameTooLong
  else t.walk (t.origin path) (names path)

/-! ## Making directories -/

/-- Whether some names lead to a directory. -/
def isDirectory (t : FileTree) (o : Position) (names : List String) : Bool :=
  match t.walk o names with
  | .ok p => t.node? p = some .directory
  | .error _ => false

/-- Makes the directory that some names lead to, in one that is there. -/
def makeDirectory (t : FileTree) (o : Position) (names : List String) : Except IoError Unit × FileTree :=
  match t.walk o names with
  | .error e => (.error e, t)
  | .ok p =>
    match t.node? p with
    | some _ => (.error .exists, t)
    | none => (.ok (), t.set p .directory)

/-- Makes a directory unless it is there. -/
def ensureDirectory (t : FileTree) (o : Position) (names : List String) : Except IoError Unit × FileTree :=
  match t.makeDirectory o names with
  | (.error e, t) => (if t.isDirectory o names then .ok () else .error e, t)
  | made => made

/-- Makes a directory; the one above it is made first only if something is missing there. -/
def ensureBelow (t : FileTree) (o : Position) (names : List String)
    (above : FileTree → Except IoError Unit × FileTree) : Except IoError Unit × FileTree :=
  match t.makeDirectory o names with
  | (.error .notFound, t) =>
    match above t with
    | (.ok (), t) => t.ensureDirectory o names
    | failed => failed
  | _ => t.ensureDirectory o names

/-- Makes the directory at the end of some names, the last one first, and those above it. -/
def ensureAll (o : Position) (t : FileTree) : List String → Except IoError Unit × FileTree
  | [] => (.ok (), t)
  | name :: rest =>
    if name = "." then ensureAll o t rest
    else t.ensureBelow o (name :: rest).reverse fun t => ensureAll o t rest

/-! ## Operations -/

/-- The text of a file. -/
def readText (t : FileTree) (path : String) : Except IoError String :=
  (t.locate path).bind fun p =>
    match t.node? p with
    | some (.text s) => .ok s
    | some .binary => .error .notText
    | some .directory => .error .isDirectory
    | none => .error .notFound

/--
Makes a directory and those it lies in. A path that ends in `.` names a directory that has to be
there: those above are made, but not the one that the dot stands in.
-/
def makeDirectories (t : FileTree) (path : String) : Except IoError Unit × FileTree :=
  if path = "" then (.ok (), t)
  else if isTooLong path then (.error .nameTooLong, t)
  else
    let o := t.origin path
    let given := (names path).filter (· ≠ "")
    let above := (given.reverse.dropWhile (· = ".")).drop 1
    t.ensureBelow o given fun t => ensureAll o t above

/-- Puts a file at the end of a path. -/
def put (t : FileTree) (path : String) (n : FileNode) : Except IoError Unit × FileTree :=
  match t.locate path with
  | .error e => (.error e, t)
  | .ok p =>
    match t.node? p with
    | some .directory => (.error .isDirectory, t)
    | _ => (.ok (), t.set p n)

/-- Gives a file another name. -/
def rename (t : FileTree) (path newPath : String) : Except IoError Unit × FileTree :=
  match t.locate path with
  | .error e => (.error e, t)
  | .ok p =>
    match t.node? p with
    | none => (.error .notFound, t)
    | some .directory => (.error .isDirectory, t)
    | some n =>
      match t.locate newPath with
      | .error e => (.error e, t)
      | .ok q =>
        match t.node? q with
        | some .directory => (.error .isDirectory, t)
        -- The old name goes first, so a file renamed to itself stays.
        | _ => (.ok (), (t.erase p).set q n)

instance : Volume FileTree where
  readText := readText
  makeDirectories := makeDirectories
  writeText t path s := t.put path (.text s)
  rename := rename

/-- The names in a directory in order; none if there is no such directory. -/
def list (t : FileTree) (path : String) : List String :=
  match t.locate path with
  | .error _ => []
  | .ok p =>
    NameMap.names <| NameSet.ofNames <| t.nodes.filterMap fun e =>
      match e.1 with
      | [] => none
      | name :: parent => if parent = p then some name else none

end FileTree

end VisualNovel
