/-
  VisualNovel.Json.Quote

  Quoted strings of JSON. `quote` writes a text with the short escapes where
  there are any and `\u00..` for the other control characters; everything else
  stands for itself. `scanString` reads a quoted string in two steps: `pieces`
  cuts the text into characters and 16-bit units up to the closing quote, and
  `join` puts surrogate pairs together.
-/

import VisualNovel.Json.Document

namespace VisualNovel.Json

/-! ## Writing -/

/-- A hexadecimal digit in small letters. -/
def hexDigit (n : Nat) : Char :=
  Nat.digitChar n

/-- How one character is written inside quotes. -/
def escape (c : Char) : List Char :=
  if c = '"' then ['\\', '"']
  else if c = '\\' then ['\\', '\\']
  else if c = '\x08' then ['\\', 'b']
  else if c = '\x0c' then ['\\', 'f']
  else if c = '\n' then ['\\', 'n']
  else if c = '\r' then ['\\', 'r']
  else if c = '\t' then ['\\', 't']
  else if c.toNat < 0x20 then ['\\', 'u', '0', '0', hexDigit (c.toNat / 16), hexDigit (c.toNat % 16)]
  else [c]

/-- A text in quotes. -/
def quote (s : String) : List Char :=
  '"' :: (s.toList.flatMap escape ++ ['"'])

/-! ## Reading -/

/-- The value of a hexadecimal digit. -/
def hexValue? (c : Char) : Option Nat :=
  if '0' ≤ c ∧ c ≤ '9' then some (c.toNat - '0'.toNat)
  else if 'a' ≤ c ∧ c ≤ 'f' then some (c.toNat - 'a'.toNat + 10)
  else if 'A' ≤ c ∧ c ≤ 'F' then some (c.toNat - 'A'.toNat + 10)
  else none

/-- The 16-bit unit that four hexadecimal digits stand for. -/
def unit? (a b c d : Char) : Option Nat :=
  (hexValue? a).bind fun a => (hexValue? b).bind fun b => (hexValue? c).bind fun c =>
    (hexValue? d).map fun d => ((a * 16 + b) * 16 + c) * 16 + d

/-- The character that a one-letter escape stands for. -/
def unescape? (c : Char) : Option Char :=
  if c = '"' then some '"'
  else if c = '\\' then some '\\'
  else if c = '/' then some '/'
  else if c = 'b' then some '\x08'
  else if c = 'f' then some '\x0c'
  else if c = 'n' then some '\n'
  else if c = 'r' then some '\r'
  else if c = 't' then some '\t'
  else none

/-- One step of a quoted string: a character or a 16-bit unit given by four digits. -/
inductive Piece
  | char (c : Char)
  | unit (n : Nat)
  deriving DecidableEq, Repr

/-- How a quoted string ends: with a quote, or cut short, perhaps within the digits of a unit. -/
inductive Ending
  | quote (rest : List Char)
  | cut (e : TextError) (inUnit : Bool)
  deriving DecidableEq, Repr

/-- Four digits are missing: the text ends, if it has no four bytes left, or has other characters. -/
def unitError (cs : List Char) : TextError :=
  if (cs.take 4).foldl (fun n c => n + c.utf8Size) 0 < 4 then .endInString else .unknownEscape

/-- The pieces of a quoted string after its opening quote, and its end. -/
def pieces : List Char → List Piece × Ending
  | [] => ([], .cut .endInString false)
  | c :: cs =>
    if c = '"' then ([], .quote cs)
    else if c = '\\' then
      match cs with
      | [] => ([], .cut .endInString false)
      | e :: cs =>
        if e = 'u' then
          match cs with
          | h₁ :: h₂ :: h₃ :: h₄ :: rest =>
            match unit? h₁ h₂ h₃ h₄ with
            | some n => ((.unit n) :: (pieces rest).1, (pieces rest).2)
            | none => ([], .cut (unitError cs) true)
          -- Fewer than four characters may still be four bytes.
          | _ => ([], .cut (unitError cs) true)
        else
          match unescape? e with
          | some x => ((.char x) :: (pieces cs).1, (pieces cs).2)
          | none => ([], .cut .unknownEscape false)
    else if c.toNat < 0x20 then ([], .cut .controlCharacter false)
    else ((.char c) :: (pieces cs).1, (pieces cs).2)

def isHighSurrogate (n : Nat) : Bool := 0xD800 ≤ n && n ≤ 0xDBFF

def isLowSurrogate (n : Nat) : Bool := 0xDC00 ≤ n && n ≤ 0xDFFF

/-- The character of a surrogate pair. -/
def pairChar (high low : Nat) : Char :=
  Char.ofNat (0x10000 + (high - 0xD800) * 0x400 + (low - 0xDC00))

/-- What an unfinished surrogate pair is called, by how the string ends after its first half. -/
def Ending.afterHighSurrogate : Ending → TextError
  | .quote _ => .unfinishedPair
  | .cut e true => e
  | .cut .endInString false => .endInString
  | .cut _ false => .unfinishedPair

/-- Puts pieces together; a surrogate without its partner is an error. -/
def join (ending : Ending) : List Piece → Except TextError (List Char)
  | [] => .ok []
  | .char c :: ps => (join ending ps).map (c :: ·)
  | .unit n :: ps =>
    if isLowSurrogate n then .error .unpairedSurrogate
    else if isHighSurrogate n then
      match ps with
      | .unit m :: ps =>
        if isLowSurrogate m then (join ending ps).map (pairChar n m :: ·)
        else .error .unpairedSurrogate
      | .char _ :: _ => .error .unfinishedPair
      | [] => .error ending.afterHighSurrogate
    else (join ending ps).map (Char.ofNat n :: ·)

/-- A quoted string after its opening quote: its content and the text after it, or where it breaks. -/
def scanString (cs : List Char) : Except Break (Quoted × List Char) :=
  let (ps, ending) := pieces cs
  let content := join ending ps
  match ending with
  | .quote rest => .ok (content.map String.ofList, rest)
  | .cut e _ =>
    match content with
    | .ok _ => .error (.both e)
    -- Surrogates are put together only when the string is read, not when it is skipped.
    | .error e' => .error ⟨e', e⟩

end VisualNovel.Json
