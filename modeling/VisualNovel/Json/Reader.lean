/-
  VisualNovel.Json.Reader

  Typed readers of documents. A reader walks a document from the left and stops
  at the first problem, be it one of the text or a value of the wrong type. Its
  first argument is the room for nesting: entering a list or an object needs at
  least two levels of room and leaves one less.

  A structure (`record`) may be written as an object, whose unknown members are
  skipped and whose known ones stand at most once, or as the list of its fields
  in order. `untagged` tries alternatives on a value that is sound as a whole.
-/

import VisualNovel.Decimal.Shortest
import VisualNovel.Json.Scan
import VisualNovel.Json.Value
import VisualNovel.Text.Visible

namespace VisualNovel.Json

/-- What stands in a document where something else was expected. -/
inductive Found
  | null
  | bool (b : Bool)
  | number (n : Number)
  | string (s : String)
  | list
  | object
  deriving DecidableEq, Repr

/-- The first problem that a reader meets. -/
inductive Problem
  | text (e : TextError)
  | invalidType (found : Found) (expected : String)
  | invalidValue (found : Found) (expected : String)
  | invalidLength (length : Nat) (expected : String)
  /-- A list of `length` items where the structure has only `fields` of them. -/
  | extraItems (length fields : Nat)
  | missingField (name : String)
  | duplicateField (name : String)
  | unknownVariant (name : String) (known : List String)
  | noAlternative (name : String)
  | rejected (reason : String)
  deriving DecidableEq, Repr

/-- Where a document comes from: a text, a value, or a part of a text that was read ahead. -/
inductive Source
  | text
  | value
  | ahead
  deriving DecidableEq, Repr

/-! ## Wording -/

/-- How a found value is named. -/
def Found.describe : Found → String
  | .null => "null"
  | .bool true => "boolean `true`"
  | .bool false => "boolean `false`"
  | .number (.natural n) => "integer `" ++ String.ofList (Text.Numeral.digits n) ++ "`"
  | .number (.negative n) => "integer `-" ++ String.ofList (Text.Numeral.digits n) ++ "`"
  | .number (.float s m) => "floating point `" ++ String.ofList (m.text s) ++ "`"
  | .string s => "string " ++ Text.inspect s
  | .list => "sequence"
  | .object => "map"

/-- A count of elements. -/
def elements (n : Nat) : String :=
  if n = 1 then "1 element" else toString n ++ " elements"

/-- The alternatives of a variant, in the order of declaration. -/
def oneOf (known : List String) : String :=
  let quoted := known.map fun n => "`" ++ n ++ "`"
  match quoted with
  | [] => "there are no variants"
  | [a] => "expected " ++ a
  | [a, b] => "expected " ++ a ++ " or " ++ b
  | many => "expected one of " ++ ", ".intercalate many

/-- The wording of a problem. -/
def Problem.message (source : Source) : Problem → String
  | .text e => e.message
  | .invalidType found expected => "invalid type: " ++ found.describe ++ ", expected " ++ expected
  | .invalidValue found expected => "invalid value: " ++ found.describe ++ ", expected " ++ expected
  | .invalidLength n expected => "invalid length " ++ toString n ++ ", expected " ++ expected
  | .extraItems n fields =>
    match source with
    | .text => TextError.trailingText.message
    | .value => "invalid length " ++ toString n ++ ", expected fewer elements in array"
    | .ahead => "invalid length " ++ toString n ++ ", expected " ++ elements fields ++ " in sequence"
  | .missingField name => "missing field `" ++ name ++ "`"
  | .duplicateField name => "duplicate field `" ++ name ++ "`"
  | .unknownVariant name known => "unknown variant `" ++ name ++ "`, " ++ oneOf known
  | .noAlternative name => "data did not match any variant of untagged enum " ++ name
  | .rejected reason => reason

/-! ## Skipping -/

/-- The error of a tail when its list or object is skipped. -/
def Tail.skip : Tail → Except Problem Unit
  | .closed => .ok ()
  | .broken b => .error (.text b.skipped)

/-- The error of a tail when its list or object is read. -/
def Tail.read : Tail → Except Problem Unit
  | .closed => .ok ()
  | .broken b => .error (.text b.read)

/-- The error of a tail right after the last field of a structure written as a list. -/
def Tail.afterLast : Tail → Except Problem Unit
  | .closed => .ok ()
  | .broken b =>
    match b.read with
    | .endInList => .error (.text .endInList)
    | .trailingComma => .error (.text .trailingComma)
    | _ => .error (.text .trailingText)

mutual

/-- Skips a value: only its grammar counts, not the range of numbers nor the depth of nesting. -/
def Document.skip : Document → Except Problem Unit
  | .missing e => .error (.text e)
  | .brokenString b => .error (.text b.skipped)
  | .broken b => .error (.text b.skipped)
  | .array items tail => (skipAll items).bind fun _ => tail.skip
  | .object members tail => (skipMembers members).bind fun _ => tail.skip
  | .keyless e => .error (.text e)
  | _ => .ok ()

def skipAll : List Document → Except Problem Unit
  | [] => .ok ()
  | d :: ds => d.skip.bind fun _ => skipAll ds

def skipMembers : List (Quoted × Document) → Except Problem Unit
  | [] => .ok ()
  | (_, d) :: ms => d.skip.bind fun _ => skipMembers ms

end

/-! ## Readers -/

/-- A reader of documents, given the room for nesting. -/
abbrev Reader (α : Type u) := Nat → Document → Except Problem α

/-- The room for nesting in a text. -/
def maximalRoom : Nat := 128

/-- What stands in a document, or the error of the text there. -/
def Document.found : Document → Except TextError Found
  | .null => .ok .null
  | .bool b => .ok (.bool b)
  | .number n => .ok (.number n)
  | .hugeNumber => .error .numberTooLarge
  | .string s => s.map .string
  | .array _ _ => .ok .list
  | .object _ _ => .ok .object
  | .keyless _ => .ok .object
  | .missing e => .error e
  | .brokenString b => .error b.read
  | .broken b => .error b.read

/-- The problem of a document that is of the wrong type. -/
def Document.mismatch (d : Document) (expected : String) : Problem :=
  match d.found with
  | .ok found => .invalidType found expected
  | .error e => .text e

/-- Enters a list or an object. -/
def enter (room : Nat) (k : Nat → Except Problem α) : Except Problem α :=
  if room ≤ 1 then .error (.text .tooDeep) else k (room - 1)

/-- Reads a text. -/
def text : Reader String
  | _, .string (.ok s) => .ok s
  | _, d => .error (d.mismatch "a string")

/-- Reads a truth value. -/
def flag : Reader Bool
  | _, .bool b => .ok b
  | _, d => .error (d.mismatch "a boolean")

/-- Reads a natural number of 32 bits. -/
def word : Reader UInt32
  | _, .number (.natural n) =>
    if n < UInt32.size then .ok (UInt32.ofNat n) else .error (.invalidValue (.number (.natural n)) "u32")
  | _, .number (.negative n) => .error (.invalidValue (.number (.negative n)) "u32")
  | _, d => .error (d.mismatch "u32")

/-- Reads nothing but null. -/
def unit : Reader Unit
  | _, .null => .ok ()
  | _, d => .error (d.mismatch "unit")

/-- Reads null as absent. -/
def option (r : Reader α) : Reader (Option α)
  | _, .null => .ok none
  | room, d => (r room d).map some

/-- Reads the items of a list one after another. -/
def items (r : Reader α) (room : Nat) : List Document → Except Problem (List α)
  | [] => .ok []
  | d :: ds => (r room d).bind fun a => (items r room ds).map (a :: ·)

/-- Reads a list. -/
def list (r : Reader α) : Reader (List α)
  | room, .array ds tail =>
    enter room fun room => (items r room ds).bind fun as => tail.read.map fun _ => as
  | _, d => .error (d.mismatch "a sequence")

/-- Reads the members of an object one after another. -/
def members (r : Reader α) (room : Nat) : List (Quoted × Document) → Except Problem (List (String × α))
  | [] => .ok []
  | (.error e, _) :: _ => .error (.text e)
  | (.ok name, d) :: ms => (r room d).bind fun a => (members r room ms).map ((name, a) :: ·)

/-- Reads an object as a map; the last of several members of one name counts. -/
def map (r : Reader α) : Reader (NameMap α)
  | room, .object ms tail =>
    enter room fun room => (members r room ms).bind fun es => tail.read.map fun _ => NameMap.ofList es
  | room, .keyless e => enter room fun _ => .error (.text e)
  | _, d => .error (d.mismatch "a map")

mutual

/-- Reads any value. -/
def value (room : Nat) : Document → Except Problem Json
  | .null => .ok .null
  | .bool b => .ok (.bool b)
  | .number n => .ok (.number n)
  | .hugeNumber => .error (.text .numberTooLarge)
  | .string (.ok s) => .ok (.string s)
  | .string (.error e) => .error (.text e)
  | .array ds tail =>
    if room ≤ 1 then .error (.text .tooDeep)
    else (values (room - 1) ds).bind fun js => tail.read.map fun _ => .array js
  | .object ms tail =>
    if room ≤ 1 then .error (.text .tooDeep)
    else (memberValues (room - 1) ms).bind fun js => tail.read.map fun _ => .object (normalize js)
  | .keyless e =>
    if room ≤ 1 then .error (.text .tooDeep) else .error (.text e)
  | .missing e => .error (.text e)
  | .brokenString b => .error (.text b.read)
  | .broken b => .error (.text b.read)

def values (room : Nat) : List Document → Except Problem (List Json)
  | [] => .ok []
  | d :: ds => (value room d).bind fun j => (values room ds).map (j :: ·)

def memberValues (room : Nat) : List (Quoted × Document) → Except Problem (List (String × Json))
  | [] => .ok []
  | (.error e, _) :: _ => .error (.text e)
  | (.ok name, d) :: ms => (value room d).bind fun j => (memberValues room ms).map ((name, j) :: ·)

end

/-- The first alternative that reads a document. -/
def firstOf (rs : List (Reader α)) (room : Nat) (d : Document) : Option α :=
  rs.findSome? fun r => (r room d).toOption

/-- Reads a value that is sound as a whole by the first alternative that fits. -/
def untagged (name : String) (rs : List (Reader α)) : Reader α
  | room, d =>
    -- The whole value is read ahead, so an error of the text comes before any alternative.
    (value room d).bind fun _ =>
      match firstOf rs room d with
      | some a => .ok a
      | none => .error (.noAlternative name)

/-- The value of a variant's name. -/
def variantNamed (known : List (String × α)) (name : String) : Except Problem α :=
  match NameMap.find? name known with
  | some a => .ok a
  | none => .error (.unknownVariant name (known.map (·.1)))

/-- Reads a variant without content: its name, or an object with its name and null. -/
def variant (known : List (String × α)) : Reader α
  | _, .string (.ok name) => variantNamed known name
  | _, .string (.error e) => .error (.text e)
  | room, .object ((.ok name, d) :: ms) tail =>
    enter room fun room => (variantNamed known name).bind fun a => (unit room d).bind fun _ =>
      match ms, tail with
      -- The braces close right after the one member.
      | [], .closed => .ok a
      | [], .broken ⟨.endInObject, _⟩ => .error (.text .endInObject)
      | _, _ => .error (.text .valueExpected)
  | room, .object ((.error e, _) :: _) _ => enter room fun _ => .error (.text e)
  | room, .object [] (.broken b) => enter room fun _ => .error (.text b.read)
  | room, .object [] .closed => enter room fun _ => .error (.text .valueExpected)
  | room, .keyless e => enter room fun _ => .error (.text e)
  | _, .missing e => .error (.text e)
  | _, .brokenString b => .error (.text b.read)
  | _, _ => .error (.text .valueExpected)

/-! ## Structures -/

/-- The fields of a structure in the order of declaration, each with its reader and its default. -/
inductive Fields : List Type → Type 1
  | nil : Fields []
  | cons {α : Type} {ts : List Type} (name : String) (r : Reader α) (absent : Option α)
      (rest : Fields ts) : Fields (α :: ts)

namespace Fields

/-- A field that has to be there. -/
abbrev required (name : String) (r : Reader α) (rest : Fields ts) : Fields (α :: ts) :=
  .cons name r none rest

/-- A field with a default. -/
abbrev optional (name : String) (r : Reader α) (absent : α) (rest : Fields ts) : Fields (α :: ts) :=
  .cons name r (some absent) rest

end Fields

/-- The values of a structure's fields. -/
def Row : List Type → Type
  | [] => Unit
  | α :: ts => α × Row ts

/-- The fields read so far. -/
def Slots : List Type → Type
  | [] => Unit
  | α :: ts => Option α × Slots ts

namespace Fields

/-- No field read yet. -/
def unread : {ts : List Type} → Fields ts → Slots ts
  | _, .nil => ()
  | _, .cons _ _ _ rest => (none, rest.unread)

/-- Reads a member into its field; `none` if the name is no field. -/
def put (room : Nat) (key : String) (d : Document) :
    {ts : List Type} → Fields ts → Slots ts → Option (Except Problem (Slots ts))
  | _, .nil, _ => none
  | _, .cons name r _ rest, (slot, slots) =>
    if key = name then
      some (match slot with
        | some _ => .error (.duplicateField name)
        | none => (r room d).map fun a => (some a, slots))
    else (put room key d rest slots).map fun result => result.map fun slots => (slot, slots)

/-- Reads the members of an object into the fields; unknown ones are skipped. -/
def gather (room : Nat) (fields : Fields ts) :
    List (Quoted × Document) → Slots ts → Except Problem (Slots ts)
  | [], slots => .ok slots
  | (.error e, _) :: _, _ => .error (.text e)
  | (.ok key, d) :: ms, slots =>
    match fields.put room key d slots with
    | some result => result.bind fun slots => gather room fields ms slots
    | none => d.skip.bind fun _ => gather room fields ms slots

/-- Fills in defaults; the first field without value or default is missing. -/
def finish : {ts : List Type} → Fields ts → Slots ts → Except Problem (Row ts)
  | _, .nil, _ => .ok ()
  | _, .cons name _ absent rest, (slot, slots) =>
    match slot.or absent with
    | some a => (finish rest slots).map fun row => (a, row)
    | none => .error (.missingField name)

/-- Reads the fields from the items of a list; also the items left over. -/
def fromItems (room : Nat) (expected : String) (index : Nat) (tail : Tail) :
    {ts : List Type} → Fields ts → List Document → Except Problem (Row ts × List Document)
  | _, .nil, ds => .ok ((), ds)
  | _, .cons _ r _ rest, d :: ds =>
    (r room d).bind fun a =>
      (fromItems room expected (index + 1) tail rest ds).map fun (row, ds) => ((a, row), ds)
  | _, .cons _ _ absent rest, [] =>
    match tail, absent with
    | .broken b, _ => .error (.text b.read)
    | .closed, some a =>
      (fromItems room expected (index + 1) tail rest []).map fun (row, ds) => ((a, row), ds)
    | .closed, none => .error (.invalidLength index expected)

/-- Number of fields. -/
def count : {ts : List Type} → Fields ts → Nat
  | _, .nil => 0
  | _, .cons _ _ _ rest => rest.count + 1

end Fields

/-- Reads a structure from an object of its fields or from a list of them. -/
def record (what : String) (fields : Fields ts) (make : Row ts → α) : Reader α
  | room, .object ms tail =>
    enter room fun room => (fields.gather room ms fields.unread).bind fun slots =>
      -- A missing field shows only once the object has ended.
      tail.read.bind fun _ => (fields.finish slots).map make
  | room, .array ds tail =>
    enter room fun room =>
      (fields.fromItems room (what ++ " with " ++ elements fields.count) 0 tail ds).bind
        fun (row, rest) =>
          match rest with
          | [] => tail.afterLast.map fun _ => make row
          | _ :: _ => .error (.extraItems ds.length fields.count)
  | room, .keyless e => enter room fun _ => .error (.text e)
  | _, d => .error (d.mismatch what)

/-! ## Whole texts -/

/-- Reads a text that holds one value and nothing else. -/
def readText (r : Reader α) (s : String) : Except Problem α :=
  let (d, after) := Document.ofText s.toList
  (r maximalRoom d).bind fun a =>
    match after with
    | none => .ok a
    | some e => .error (.text e)

end VisualNovel.Json
