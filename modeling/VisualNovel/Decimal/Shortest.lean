/-
  VisualNovel.Decimal.Shortest

  The shortest decimal text of a binary magnitude: the fewest digits that round
  back to it, the nearest such decimal if there are several, laid out
  positionally for leading-digit exponents from -5 to 15 and otherwise with a
  signed exponent. An integral value keeps one zero after its point.
-/

import VisualNovel.Decimal.Binary
import VisualNovel.Text.Numeral

namespace VisualNovel.Decimal

/-- The decimal `digits * 10 ^ exponent`. -/
structure Shortest where
  digits : Nat
  exponent : Int
  deriving DecidableEq, Repr

namespace Binary

/-- Compares `digits * 10 ^ e` with `units * 2 ^ q`. -/
def compareDecimal (digits : Nat) (e : Int) (units : Nat) (q : Int) : Ordering :=
  compare (digits * Nat.pow 10 e.toNat * Nat.pow 2 (-q).toNat)
    (units * Nat.pow 2 q.toNat * Nat.pow 10 (-e).toNat)

/--
Whether a decimal rounds to this magnitude: it lies between the midpoints to both neighbours, which
count as inside exactly when the mantissa is even. Below a power of two the gap is half as wide.
-/
def isReadBackFrom (b : Binary) (digits : Nat) (e : Int) : Bool :=
  -- In quarters of the last place a midpoint is two away, or one below a power of two.
  let q := b.exponent - 2
  let low :=
    if b.mantissa = Nat.pow 2 52 ∧ -1074 < b.exponent then 4 * b.mantissa - 1 else 4 * b.mantissa - 2
  let high := 4 * b.mantissa + 2
  match compareDecimal digits e low q, compareDecimal digits e high q with
  | .gt, .lt => true
  | .eq, _ => b.mantissa % 2 == 0
  | _, .eq => b.mantissa % 2 == 0
  | _, _ => false

/-- The least `k` with the magnitude below `10 ^ k`. -/
def decimalScale (b : Binary) : Int :=
  let candidates := (List.range 640).map fun i : Nat => (i : Int) - 325
  (candidates.find? fun k => compareDecimal 1 k b.mantissa b.exponent == .gt).getD 315

/-- The neighbour on the grid of multiples of `10 ^ e` that reads back, the nearer of two. -/
def onGrid? (b : Binary) (e : Int) : Option Shortest :=
  let num := b.ratio.1 * Nat.pow 10 (-e).toNat
  let den := b.ratio.2 * Nat.pow 10 e.toNat
  let a := num / den
  match b.isReadBackFrom a e, b.isReadBackFrom (a + 1) e with
  | false, false => none
  | true, false => some ⟨a, e⟩
  | false, true => some ⟨a + 1, e⟩
  | true, true => some ⟨roundHalfEven num den, e⟩

/-- The shortest decimal that reads back. Seventeen digits always suffice. -/
def shortest (b : Binary) : Shortest :=
  let k := b.decimalScale
  ((List.range 17).findSome? fun n => b.onGrid? (k - (n + 1 : Nat))).getD ⟨b.ratio.1 / b.ratio.2, 0⟩

end Binary

/-- Lays a row of digits with leading-digit exponent `e` out as text. -/
def layout (ds : List Char) (e : Int) : List Char :=
  if 0 ≤ e ∧ e ≤ 15 then
    let whole := e.toNat + 1
    if ds.length ≤ whole then ds ++ List.replicate (whole - ds.length) '0' ++ ['.', '0']
    else ds.take whole ++ ['.'] ++ ds.drop whole
  else if -5 ≤ e ∧ e < 0 then
    ['0', '.'] ++ List.replicate ((-e).toNat - 1) '0' ++ ds
  else
    let point := if ds.length ≤ 1 then [] else ['.']
    let sign := if e < 0 then '-' else '+'
    ds.take 1 ++ point ++ ds.drop 1 ++ ['e', sign] ++ Text.Numeral.digits e.natAbs

/-- The text of a magnitude with its sign. -/
def Binary.text (negative : Bool) (b : Binary) : List Char :=
  let body :=
    if b.mantissa = 0 then ['0', '.', '0']
    else
      let s := b.shortest
      -- A row that ends in zeros is the same decimal on a coarser grid.
      let all := Text.Numeral.digits s.digits
      let ds := (all.reverse.dropWhile (· == '0')).reverse
      layout ds (s.exponent + all.length - 1)
  if negative then '-' :: body else body

end VisualNovel.Decimal
