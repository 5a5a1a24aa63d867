/-
  VisualNovel.Proofs.Time.Timestamp

  A timestamp that was written is read back as the same instant: signed years,
  fractions of every width and leap seconds included. There is one lemma for each
  reader of a field; it says what the reader takes from the text that the writer
  of that field produces and what it leaves over.
-/

import VisualNovel.Proofs.Text.Numeral
import VisualNovel.Time.Timestamp

namespace VisualNovel.Time

open Text
open Text.Numeral (padded)

/-! ## Digits -/

/-- Nothing is trimmed in front of a padded numeral. -/
theorem trimStart_padded_append (width n : Nat) (rest : List Char) :
    trimStart (padded width n ++ rest) = padded width n ++ rest := by
  obtain ⟨c, cs, h⟩ := List.exists_cons_of_ne_nil (Numeral.padded_ne_nil width n)
  have hc : c.isDigit = true := Numeral.isDigit_of_mem_padded (show c ∈ padded width n by simp [h])
  rw [h, List.cons_append, trimStart_cons_of_not_blank _ (isBlank_of_isDigit hc)]

/-- A row of digits is read up to the limit, or up to the first other character before it. -/
theorem readDigits_append {limit : Nat} {ds rest : List Char} (hne : ds ≠ [])
    (hds : ∀ c ∈ ds, c.isDigit = true) (hlen : ds.length ≤ limit)
    (hrest : ds.length = limit ∨ Stops Char.isDigit rest) :
    readDigits limit (ds ++ rest) = .ok (ds, rest) := by
  have htake : ((ds ++ rest).take limit).takeWhile Char.isDigit = ds := by
    rw [List.take_append, List.take_of_length_le hlen]
    apply takeWhile_append_of_stops hds
    rcases hrest with heq | hstops
    · simp [heq]
    · intro c hc
      apply hstops
      cases rest with
      | nil => simp at hc
      | cons d ds =>
        rw [List.head?_take] at hc
        split at hc <;> simp_all
  have happ : ds ++ rest ≠ [] := List.append_ne_nil_of_left_ne_nil hne _
  simp only [readDigits, htake, happ, hne, if_false, List.drop_left]

/-! ## Fields -/

theorem readDigits_padded (width : Nat) {n : Nat} (hwidth : 0 < width) (h : n < Nat.pow 10 width)
    (rest : List Char) : readDigits width (padded width n ++ rest) = .ok (padded width n, rest) := by
  have hlen := Numeral.length_padded hwidth h
  exact readDigits_append (Numeral.padded_ne_nil width n)
    (fun _ => Numeral.isDigit_of_mem_padded) (Nat.le_of_eq hlen) (.inl hlen)

theorem readField_padded {low high n : Nat} (hlow : low ≤ n) (hhigh : n ≤ high) (h : n < 100)
    (rest : List Char) : readField low high (padded 2 n ++ rest) = .ok (n, rest) := by
  rw [readField, trimStart_padded_append, readDigits_padded 2 (by decide) h]
  simp only [Except.bind, Numeral.value_padded, hlow, hhigh, and_self, if_true]

@[simp] theorem readChar_self (c : Char) (cs : List Char) : readChar c (c :: cs) = .ok ((), cs) := by
  simp [readChar]

theorem isBlank_hyphen : isBlank '-' = false := by
  decide

theorem isBlank_colon : isBlank ':' = false := by
  decide

@[simp] theorem readSeparator_letter (cs : List Char) : readSeparator ('T' :: cs) = .ok ((), cs) := rfl

/-- A year of four digits is read without a sign. -/
theorem readYear_padded {n : Nat} (h : n < 10000) (rest : List Char) :
    readYear (padded 4 n ++ rest) = .ok ((n : Int), rest) := by
  have hread := readDigits_padded 4 (by decide) h rest
  obtain ⟨c, cs, hc⟩ := List.exists_cons_of_ne_nil (Numeral.padded_ne_nil 4 n)
  have hdigit : c.isDigit = true :=
    Numeral.isDigit_of_mem_padded (show c ∈ padded 4 n by simp [hc])
  rw [readYear, trimStart_padded_append]
  split
  · next heq =>
    rw [hc, List.cons_append] at heq
    cases heq
    simp at hdigit
  · next heq =>
    rw [hc, List.cons_append] at heq
    cases heq
    simp at hdigit
  · rw [hread]
    simp only [Except.map, Numeral.value_padded]

/-- A year with a sign is read up to the first character that is no digit. -/
theorem readYear_signed {n : Nat} (h : n < 2147483648) (negative : Bool) {rest : List Char}
    (hrest : Stops Char.isDigit rest) :
    readYear ((if negative then '-' else '+') :: (padded 4 n ++ rest)) =
      .ok (if negative then -(n : Int) else n, rest) := by
  have hread : readDigits (padded 4 n ++ rest).length (padded 4 n ++ rest) = .ok (padded 4 n, rest) :=
    readDigits_append (Numeral.padded_ne_nil 4 n) (fun _ => Numeral.isDigit_of_mem_padded)
      (by simp) (.inr hrest)
  rw [readYear, trimStart_cons_of_not_blank _ (by cases negative <;> decide)]
  cases negative with
  | true =>
    simp only [if_true, hread, Except.bind, Numeral.value_padded]
    rw [if_pos (by omega)]
  | false =>
    simp only [Bool.false_eq_true, if_false, hread, Except.bind, Numeral.value_padded]
    rw [if_pos (by omega)]

/-- A year is read up to the hyphen behind it. -/
theorem readYear_yearText {year : Int} (hfirst : firstYear ≤ year) (hlast : year ≤ lastYear)
    (rest : List Char) : readYear (yearText year ++ '-' :: rest) = .ok (year, '-' :: rest) := by
  have hstop : Stops Char.isDigit ('-' :: rest) := by simp
  simp only [firstYear, lastYear] at hfirst hlast
  rw [yearText]
  split
  · rw [readYear_padded (by omega)]
    simp only [Except.ok.injEq, Prod.mk.injEq, and_true]
    omega
  · have hread := readYear_signed (by omega : year.natAbs < 2147483648) (decide (year < 0)) hstop
    simp only [decide_eq_true_eq] at hread
    rw [List.cons_append, hread]
    simp only [Except.ok.injEq, Prod.mk.injEq, and_true]
    omega

/-- A fraction is read up to the offset behind it, whatever its width. -/
theorem readFraction_fractionText {nano : Nat} (h : nano < 1000000000) :
    readFraction (fractionText nano ++ ['Z']) = .ok (nano, ['Z']) := by
  have read : ∀ width n, 0 < width → width ≤ 9 → n < Nat.pow 10 width →
      n * Nat.pow 10 (9 - width) = nano →
      readFraction ('.' :: padded width n ++ ['Z']) = .ok (nano, ['Z']) := by
    intro width n hpos hle hlt hvalue
    have hlen := Numeral.length_padded hpos hlt
    have hdigits : readDigits 9 (padded width n ++ ['Z']) = .ok (padded width n, ['Z']) :=
      readDigits_append (Numeral.padded_ne_nil width n) (fun _ => Numeral.isDigit_of_mem_padded)
        (by omega) (.inr (by simp))
    rw [List.cons_append, readFraction, hdigits]
    simp only [Except.map, Numeral.value_padded, hlen, hvalue]
    rfl
  rw [fractionText]
  split
  · next hzero => subst hzero; rfl
  split
  · have hlt : nano / 1000000 < 1000 := by omega
    have hvalue : nano / 1000000 * 1000000 = nano := by omega
    exact read 3 _ (by decide) (by decide) hlt hvalue
  split
  · have hlt : nano / 1000 < 1000000 := by omega
    have hvalue : nano / 1000 * 1000 = nano := by omega
    exact read 6 _ (by decide) (by decide) hlt hvalue
  · have hvalue : nano * 1 = nano := by omega
    exact read 9 _ (by decide) (by decide) h hvalue

/-! ## Date and time -/

/-- A date is read up to what follows the two digits of its day. -/
theorem readDate_text (d : Date) (rest : List Char) :
    readDate (d.text ++ rest) = .ok ((d.year, d.month, d.day), rest) := by
  obtain ⟨hfirst, hlast, hmonth, hmonth', hday, hday'⟩ := d.isDate
  have hle := daysInMonth_le d.year d.month
  simp only [readDate, Date.text, List.append_assoc, List.cons_append,
    readYear_yearText hfirst hlast, Except.bind, trimStart_cons_of_not_blank _ isBlank_hyphen,
    readChar_self, readField_padded hmonth hmonth' (by omega),
    readField_padded hday (by omega : d.day ≤ 31) (by omega), Except.map]

/-- A time of day is read up to the offset; second 60 is the leap second it was written for. -/
theorem readTime_text (t : Instant) :
    readTime (t.clockText ++ ':' :: (padded 2 (t.second % 60 + t.nano / 1000000000) ++
      (fractionText (t.nano % 1000000000) ++ ['Z']))) = .ok ((t.second, t.nano), ['Z']) := by
  obtain ⟨hsecond, hnano, hleap⟩ := t.isTimeOfDay
  have hhour : t.second / 3600 ≤ 23 := by omega
  have hminute : t.second / 60 % 60 ≤ 59 := by omega
  have hlast : t.second % 60 + t.nano / 1000000000 ≤ 60 := by omega
  simp only [readTime, Instant.clockText, List.append_assoc, List.cons_append,
    readField_padded (Nat.zero_le _) hhour (by omega), Except.bind,
    trimStart_cons_of_not_blank _ isBlank_colon, readChar_self,
    readField_padded (Nat.zero_le _) hminute (by omega),
    readField_padded (Nat.zero_le _) hlast (by omega),
    readFraction_fractionText (Nat.mod_lt _ (by decide) : t.nano % 1000000000 < 1000000000), Except.map]
  split
  · simp only [Except.ok.injEq, Prod.mk.injEq, and_true]
    omega
  · simp only [Except.ok.injEq, Prod.mk.injEq, and_true]
    omega

theorem atOffset?_zero (t : Instant) : Instant.atOffset? t.date t.second t.nano 0 = some t := by
  obtain ⟨hsecond, -, -⟩ := t.isTimeOfDay
  have hlow : ¬ (t.second : Int) < 0 := by omega
  have hhigh : (t.second : Int) < 86400 := by omega
  simp only [Instant.atOffset?, Int.sub_zero, hlow, hhigh, if_false, if_true, Int.toNat_natCast,
    Instant.of?_self]

/-- **A timestamp is read back as the instant it was written for.** -/
theorem Instant.ofText_text (t : Instant) : Instant.ofText t.text = .ok t := by
  have hoffset : readOffset (trimStart ['Z']) = .ok (0, []) := rfl
  simp only [Instant.ofText, Instant.text, readDate_text, Except.bind, readSeparator_letter,
    readTime_text, hoffset, trimStart_nil, ne_eq, not_true_eq_false, if_false, Date.of?_self,
    Int.natAbs_zero, Nat.zero_lt_succ, if_true, atOffset?_zero]

end VisualNovel.Time
