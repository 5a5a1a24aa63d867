/-
  VisualNovel.Text.Numeral

  Decimal numerals for natural numbers: writing without leading zeros or padded
  to a width, and reading with a bound. A numeral that is read may start with one
  plus sign and with zeros. `read?_digits` says that what is written is read back.
-/

namespace VisualNovel.Text.Numeral

/-- The decimal digits of a number, without leading zeros. -/
def digits (n : Nat) : List Char :=
  Nat.toDigits 10 n

/-- The digits of a number with zeros in front up to a width. -/
def padded (width n : Nat) : List Char :=
  List.replicate (width - (digits n).length) '0' ++ digits n

/-- The number that a row of digits stands for. -/
def value (cs : List Char) : Nat :=
  Nat.ofDigitChars 10 cs 0

/-- Drops one plus sign at the front. -/
def dropPlus : List Char → List Char
  | '+' :: cs => cs
  | cs => cs

/-- Reads a numeral below `bound`: an optional plus sign and at least one digit, nothing else. -/
def read? (bound : Nat) (cs : List Char) : Option Nat :=
  let ds := dropPlus cs
  if ds ≠ [] ∧ ds.all Char.isDigit ∧ value ds < bound then some (value ds) else none

/-! ## Reading what was written -/

@[simp] theorem value_digits (n : Nat) : value (digits n) = n :=
  Nat.ofDigitChars_ten_toDigits

theorem digits_ne_nil (n : Nat) : digits n ≠ [] :=
  Nat.toDigits_ne_nil

theorem isDigit_of_mem_digits {n : Nat} {c : Char} (h : c ∈ digits n) : c.isDigit = true :=
  Nat.isDigit_of_mem_toDigits (by decide) (by decide) h

theorem dropPlus_of_ne {cs : List Char} (h : ∀ rest, cs ≠ '+' :: rest) : dropPlus cs = cs := by
  unfold dropPlus
  split
  · next rest => exact absurd rfl (h rest)
  · rfl

theorem read?_digits {n bound : Nat} (h : n < bound) : read? bound (digits n) = some n := by
  have hall : (digits n).all Char.isDigit = true := by
    simpa [List.all_eq_true] using fun c hc => isDigit_of_mem_digits hc
  have hplus : ∀ rest, digits n ≠ '+' :: rest := by
    intro rest e
    have := isDigit_of_mem_digits (n := n) (c := '+') (by simp [e])
    simp at this
  simp [read?, dropPlus_of_ne hplus, digits_ne_nil, hall, h]

end VisualNovel.Text.Numeral
