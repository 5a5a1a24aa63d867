/-
  VisualNovel.Json.Numeral

  Numbers in a JSON text. `scanNumeral` follows the grammar; `Numeral.number?`
  gives the value: a 64-bit natural number, a negative 64-bit integer, or else
  the float of its first digits that fit into 64 bits, scaled by a power of ten.
  `-0` is a float.
-/

import VisualNovel.Json.Document
import VisualNovel.Text.Numeral

namespace VisualNovel.Json

/-- The parts of a written number. -/
structure Numeral where
  isNegative : Bool
  whole : List Char
  fraction : List Char
  /-- The exponent's sign and digits, if there is one. -/
  exponent : Option (Bool × List Char)
  /-- Whether there is a point. -/
  hasPoint : Bool
  deriving DecidableEq, Repr

/-- A row of digits is missing here; a text that ends is told apart only when reading. -/
def digitMissing (cs : List Char) : Break :=
  if cs = [] then ⟨.endInValue, .malformedNumber⟩ else .both .malformedNumber

/-- The exponent of a number, from its `e` on. -/
def scanExponent (cs : List Char) : Except Break (Option (Bool × List Char) × List Char) :=
  match cs with
  | [] => .ok (none, cs)
  | c :: rest =>
    if c = 'e' ∨ c = 'E' then
      let (negative, rest) := match rest with
        | '+' :: r => (false, r)
        | '-' :: r => (true, r)
        | r => (false, r)
      let ds := rest.takeWhile Char.isDigit
      if ds = [] then .error (digitMissing rest)
      else .ok (some (negative, ds), rest.dropWhile Char.isDigit)
    else .ok (none, cs)

/-- The fraction of a number, from its point on. -/
def scanFraction (cs : List Char) : Except Break (Option (List Char) × List Char) :=
  match cs with
  | '.' :: rest =>
    let ds := rest.takeWhile Char.isDigit
    if ds = [] then .error (digitMissing rest)
    else .ok (some ds, rest.dropWhile Char.isDigit)
  | _ => .ok (none, cs)

/-- The whole part of a number: no zero in front of further digits. -/
def scanWhole (cs : List Char) : Except Break (List Char × List Char) :=
  let ds := cs.takeWhile Char.isDigit
  if ds = [] then .error (digitMissing cs)
  else if ds.head? = some '0' ∧ 1 < ds.length then .error (.both .malformedNumber)
  else .ok (ds, cs.dropWhile Char.isDigit)

/-- A number and the text after it. -/
def scanNumeral (cs : List Char) : Except Break (Numeral × List Char) :=
  let (negative, cs) := match cs with
    | '-' :: r => (true, r)
    | r => (false, r)
  match scanWhole cs with
  | .error b => .error b
  | .ok (whole, cs) =>
    match scanFraction cs with
    | .error b => .error b
    | .ok (fraction, cs) =>
      match scanExponent cs with
      | .error b => .error b
      | .ok (exponent, cs) =>
        .ok (⟨negative, whole, fraction.getD [], exponent, fraction.isSome⟩, cs)

/-- Appends digits to a significand while it fits into 64 bits; also the number of digits left out. -/
def appendDigits (significand : Nat) : List Char → Nat × Nat
  | [] => (significand, 0)
  | c :: cs =>
    let next := 10 * significand + (c.toNat - '0'.toNat)
    if next < UInt64.size then appendDigits next cs else (significand, cs.length + 1)

/-- The value of a written number, or `none` beyond the largest float. -/
def Numeral.number? (n : Numeral) : Option Number :=
  let whole := appendDigits 0 n.whole
  -- A point, an exponent or a digit too many makes it a float.
  if n.hasPoint ∨ n.exponent.isSome ∨ whole.2 ≠ 0 then
    let all := appendDigits whole.1 n.fraction
    let written : Int := match n.exponent with
      | none => 0
      | some (negative, ds) =>
        if negative then -(Text.Numeral.value ds : Int) else Text.Numeral.value ds
    let e : Int := written + whole.2 - (n.fraction.length - all.2 : Nat)
    (Decimal.Binary.ofDecimal? all.1 e).map (.float n.isNegative)
  else if n.isNegative then
    -- Zero keeps its sign only as a float.
    if whole.1 = 0 ∨ Nat.pow 2 63 < whole.1 then
      (Decimal.Binary.ofDecimal? whole.1 0).map (.float true)
    else some (.negative whole.1)
  else some (.natural whole.1)

end VisualNovel.Json
