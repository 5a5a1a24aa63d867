/-
  VisualNovel.Proofs.Text.Numeral

  What readers of digits need to know about written numerals: they hold digits
  only, a padded one has its width, and one without padding starts with a zero
  only if it is zero. `takeWhile_append_of_stops` and its companion cut a row of
  digits off a text at the first character that is no digit. Trimming and folding
  letters leave a numeral as it is. Neither zeros nor a plus sign in front change
  what is read (`read?_signed`).
-/

import VisualNovel.Text.Blank
import VisualNovel.Text.Letter
import VisualNovel.Text.Numeral

namespace VisualNovel.Text

/-! ## Cutting off a row of characters -/

/-- A text that does not start with a character of a class. -/
def Stops (p : Char → Bool) (cs : List Char) : Prop :=
  ∀ c, cs.head? = some c → p c = false

@[simp] theorem stops_nil (p : Char → Bool) : Stops p [] := by
  intro c h
  cases h

@[simp] theorem stops_cons {p : Char → Bool} {c : Char} {cs : List Char} :
    Stops p (c :: cs) ↔ p c = false := by
  simp [Stops]

theorem takeWhile_append_of_stops {p : Char → Bool} {ds rest : List Char}
    (hds : ∀ c ∈ ds, p c = true) (hrest : Stops p rest) : (ds ++ rest).takeWhile p = ds := by
  rw [List.takeWhile_append_of_pos hds]
  cases rest with
  | nil => simp
  | cons c cs => rw [List.takeWhile_cons_of_neg (by simpa using hrest), List.append_nil]

theorem dropWhile_append_of_stops {p : Char → Bool} {ds rest : List Char}
    (hds : ∀ c ∈ ds, p c = true) (hrest : Stops p rest) : (ds ++ rest).dropWhile p = rest := by
  rw [List.dropWhile_append_of_pos hds]
  cases rest with
  | nil => simp
  | cons c cs => rw [List.dropWhile_cons_of_neg (by simpa using hrest)]

/-! ## Digits as characters -/

theorem isBlank_of_isDigit {c : Char} (h : c.isDigit = true) : isBlank c = false := by
  have hlow : 48 ≤ c.toNat := by
    simp only [Char.isDigit, Bool.and_eq_true, decide_eq_true_eq] at h
    exact UInt32.le_iff_toNat_le.1 h.1
  have hhigh : c.toNat ≤ 57 := by
    simp only [Char.isDigit, Bool.and_eq_true, decide_eq_true_eq] at h
    exact UInt32.le_iff_toNat_le.1 h.2
  simp only [isBlank, Bool.or_eq_false_iff, Bool.and_eq_false_iff, decide_eq_false_iff_not,
    beq_eq_false_iff_ne]
  omega

theorem toLower_of_isDigit {c : Char} (h : c.isDigit = true) : c.toLower = c := by
  have hhigh : c.toNat ≤ 57 := by
    simp only [Char.isDigit, Bool.and_eq_true, decide_eq_true_eq] at h
    exact UInt32.le_iff_toNat_le.1 h.2
  apply dif_neg
  rintro ⟨hlow, -⟩
  have : 65 ≤ c.toNat := UInt32.le_iff_toNat_le.1 hlow
  omega

/-- A text without blanks loses nothing at its ends. -/
theorem trim_of_not_blank {cs : List Char} (h : ∀ c ∈ cs, isBlank c = false) : trim cs = cs := by
  have hkeep : ∀ ds : List Char, (∀ c ∈ ds, isBlank c = false) → ds.dropWhile isBlank = ds := by
    intro ds hds
    exact dropWhile_append_of_stops (List.forall_mem_nil _) fun c hc => hds c (List.mem_of_head? hc)
  rw [trim, trimStart, hkeep cs h, trimEnd, hkeep cs.reverse (by simpa using h), List.reverse_reverse]

namespace Numeral

/-! ## Numerals without padding -/

@[simp] theorem trim_digits (n : Nat) : trim (digits n) = digits n :=
  trim_of_not_blank fun _ hc => isBlank_of_isDigit (isDigit_of_mem_digits hc)

@[simp] theorem foldCase_digits (n : Nat) : foldCase (digits n) = digits n := by
  have h : ∀ c ∈ digits n, c.toLower = c := fun c hc => toLower_of_isDigit (isDigit_of_mem_digits hc)
  rw [foldCase, List.map_congr_left h, List.map_id']

theorem digitChar_eq_zero : ∀ d < 10, Nat.digitChar d = '0' → d = 0 := by
  decide

/-- Only zero is written with a zero in front. -/
theorem eq_zero_of_head?_digits {n : Nat} (h : (digits n).head? = some '0') : n = 0 := by
  induction n using Nat.strongRecOn with
  | ind n ih =>
    rw [digits, Nat.toDigits_eq_if (by decide)] at h
    split at h
    · next hlt => exact digitChar_eq_zero n hlt (by simpa using h)
    · next hge =>
      -- The first digit is the first digit of the tenth part.
      rw [List.head?_append, Option.or_of_isSome (by simp)] at h
      have := ih (n / 10) (by omega) h
      omega

theorem exists_digits_eq_cons (n : Nat) : ∃ c cs, digits n = c :: cs ∧ c.isDigit = true := by
  obtain ⟨c, cs, h⟩ := List.exists_cons_of_ne_nil (digits_ne_nil n)
  exact ⟨c, cs, h, isDigit_of_mem_digits (n := n) (by simp [h])⟩

/-! ## Padded numerals -/

theorem isDigit_of_mem_padded {width n : Nat} {c : Char} (h : c ∈ padded width n) :
    c.isDigit = true := by
  rcases List.mem_append.1 h with h | h
  · obtain ⟨-, rfl⟩ := List.mem_replicate.1 h
    decide
  · exact isDigit_of_mem_digits h

@[simp] theorem value_padded (width n : Nat) : value (padded width n) = n := by
  rw [value, padded, Nat.ofDigitChars_append, Nat.ofDigitChars_replicate_zero, Nat.mul_zero]
  exact value_digits n

theorem length_padded {width n : Nat} (hwidth : 0 < width) (h : n < Nat.pow 10 width) :
    (padded width n).length = width := by
  have hle : (digits n).length ≤ width := (Nat.length_toDigits_le_iff (by decide) hwidth).2 h
  rw [padded, List.length_append, List.length_replicate]
  omega

theorem padded_ne_nil (width n : Nat) : padded width n ≠ [] := by
  rw [padded]
  exact List.append_ne_nil_of_right_ne_nil _ (digits_ne_nil n)

/-! ## Numerals with a sign and zeros in front -/

/-- One plus sign and zeros in front of a numeral change nothing. -/
theorem read?_signed {sign : List Char} (hsign : sign = [] ∨ sign = ['+']) (zeros : Nat) {n bound : Nat}
    (h : n < bound) : read? bound (sign ++ (List.replicate zeros '0' ++ digits n)) = some n := by
  have hdigit : ∀ c ∈ List.replicate zeros '0' ++ digits n, c.isDigit = true := by
    intro c hc
    rcases List.mem_append.1 hc with hc | hc
    · rw [(List.mem_replicate.1 hc).2]
      decide
    · exact isDigit_of_mem_digits hc
  have hdrop : dropPlus (sign ++ (List.replicate zeros '0' ++ digits n)) =
      List.replicate zeros '0' ++ digits n := by
    rcases hsign with rfl | rfl
    · apply dropPlus_of_ne
      intro rest e
      have hplus := hdigit '+' (by rw [← List.nil_append (_ ++ _), e]; exact List.mem_cons_self)
      cases hplus
    · rfl
  have hvalue : value (List.replicate zeros '0' ++ digits n) = n := by
    rw [value, Nat.ofDigitChars_append, Nat.ofDigitChars_replicate_zero, Nat.mul_zero]
    exact value_digits n
  have hne : List.replicate zeros '0' ++ digits n ≠ [] :=
    List.append_ne_nil_of_right_ne_nil _ (digits_ne_nil n)
  simp only [read?, hdrop, hvalue]
  exact if_pos ⟨hne, List.all_eq_true.2 hdigit, h⟩

end Numeral

end VisualNovel.Text
