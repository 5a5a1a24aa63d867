/-
  VisualNovel.Decimal.Binary

  Finite magnitudes of the 64-bit binary floating-point format, in exact
  arithmetic: rounding a quotient to the nearest value (an exact tie goes to the
  even significand), products, quotients, and the value of a decimal numeral.
-/

namespace VisualNovel.Decimal

/-- The integer nearest to `num / den`; an exact tie goes to the even one. -/
def roundHalfEven (num den : Nat) : Nat :=
  let q := num / den
  let r := num % den
  if 2 * r < den then q
  else if den < 2 * r then q + 1
  else if q % 2 = 0 then q else q + 1

/-- The magnitude `mantissa * 2 ^ exponent`, with a mantissa below `2 ^ 53`. -/
structure Binary where
  mantissa : Nat
  exponent : Int
  deriving DecidableEq, Repr

namespace Binary

def zero : Binary := ⟨0, -1074⟩

/-- A quotient as numerator and denominator after division by `2 ^ q`. -/
def scaled (num den : Nat) (q : Int) : Nat × Nat :=
  (num * Nat.pow 2 (-q).toNat, den * Nat.pow 2 q.toNat)

/-- The magnitude nearest to `num / den`, or `none` where that is beyond the largest finite one. -/
def ofRatio? (num den : Nat) : Option Binary :=
  if num = 0 then some zero
  else
    -- The two logarithms fix the exponent up to one; a quotient of 54 bits moves it.
    let q : Int := max ((Nat.log2 num : Int) - Nat.log2 den - 53) (-1074)
    let s := scaled num den q
    let q := if Nat.pow 2 53 ≤ s.1 / s.2 then q + 1 else q
    let s := scaled num den q
    let m := roundHalfEven s.1 s.2
    -- Rounding up may have carried into a new bit.
    let b : Binary := if m = Nat.pow 2 53 then ⟨Nat.pow 2 52, q + 1⟩ else ⟨m, q⟩
    if 971 < b.exponent then none else some b

/-- The magnitude as numerator and denominator. -/
def ratio (b : Binary) : Nat × Nat :=
  (b.mantissa * Nat.pow 2 b.exponent.toNat, Nat.pow 2 (-b.exponent).toNat)

/-- The rounded product. -/
def mul? (a b : Binary) : Option Binary :=
  ofRatio? (a.ratio.1 * b.ratio.1) (a.ratio.2 * b.ratio.2)

/-- The rounded quotient; division by zero gives zero. -/
def div? (a b : Binary) : Option Binary :=
  if b.mantissa = 0 then some zero
  else ofRatio? (a.ratio.1 * b.ratio.2) (a.ratio.2 * b.ratio.1)

/-- The magnitude nearest to `10 ^ n`. -/
def powerOfTen? (n : Nat) : Option Binary :=
  ofRatio? (Nat.pow 10 n) 1

/--
Scales a magnitude by `10 ^ e`. Powers up to the largest finite one take a single rounded product
or quotient; smaller scales first divide by `10 ^ 308` until the exponent is in that range.
-/
def scaleByTen? (b : Binary) (e : Int) : Option Binary :=
  if e.natAbs ≤ 308 then
    (powerOfTen? e.natAbs).bind fun p => if 0 ≤ e then b.mul? p else b.div? p
  else if b.mantissa = 0 then some b
  else if 0 ≤ e then none
  else ((powerOfTen? 308).bind b.div?).bind fun b => b.scaleByTen? (e + 308)
termination_by e.natAbs
decreasing_by omega

/-- The magnitude of `significand * 10 ^ e`, or `none` beyond the largest finite one. -/
def ofDecimal? (significand : Nat) (e : Int) : Option Binary :=
  (ofRatio? significand 1).bind fun b => b.scaleByTen? e

end Binary

end VisualNovel.Decimal
