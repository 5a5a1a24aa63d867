/-
  VisualNovel.Proofs.Json.Spelling

  The texts that spell a value out, as a grammar with any blanks between the
  symbols, and the scanner on them: a text that spells a value is followed to its
  end, and the document it gives is the one of that value. The printer writes
  such a text in both of its forms (`spells_pretty`, `spells_compact`), so what is
  printed is read back (`ofText_pretty`, `ofText_compact`).

  Numbers are natural numbers of 64 bits here, which is all that is written as a
  number in a save or on the wire.
-/

import VisualNovel.Json.Printer
import VisualNovel.Json.Scan
import VisualNovel.Proofs.Json.Quoted
import VisualNovel.Proofs.Text.Numeral

namespace VisualNovel.Json

open Text (Stops takeWhile_append_of_stops dropWhile_append_of_stops)
open Text.Numeral (digits)

/-! ## Blanks -/

/-- A row of blanks, such as stands between two symbols. -/
def Blank (cs : List Char) : Prop :=
  ∀ c ∈ cs, isSpace c = true

@[simp] theorem blank_nil : Blank [] := by
  simp [Blank]

@[simp] theorem blank_space : Blank [' '] := by
  simp [Blank, isSpace]

theorem skipSpace_blank_append {w cs : List Char} (hw : Blank w) :
    skipSpace (w ++ cs) = skipSpace cs :=
  List.dropWhile_append_of_pos hw

theorem skipSpace_cons {c : Char} {cs : List Char} (hc : isSpace c = false) :
    skipSpace (c :: cs) = c :: cs :=
  List.dropWhile_cons_of_neg (by simp [hc])

/-- Blanks in front of a value are skipped. -/
theorem scanValue_blank_append {w : List Char} (hw : Blank w) (fuel : Nat) (cs : List Char) :
    scanValue fuel (w ++ cs) = scanValue fuel cs := by
  cases fuel with
  | zero => rfl
  | succ fuel => simp only [scanValue, skipSpace_blank_append hw]

/-! ## Numbers -/

/-- The characters that a number could go on with. -/
def isNumberChar (c : Char) : Bool :=
  c.isDigit || c == '.' || c == 'e' || c == 'E'

/-- Blanks and a symbol do not go on with a number. -/
theorem stops_blank_append {w cs : List Char} (hw : Blank w) (hcs : Stops isNumberChar cs) :
    Stops isNumberChar (w ++ cs) := by
  cases w with
  | nil => exact hcs
  | cons c w =>
    have hc : isSpace c = true := hw c (by simp)
    simp only [isSpace, Bool.or_eq_true, beq_iff_eq] at hc
    rw [List.cons_append, Text.stops_cons]
    rcases hc with ((rfl | rfl) | rfl) | rfl <;> decide

theorem not_isDigit_of_stops {cs : List Char} (h : Stops isNumberChar cs) : Stops Char.isDigit cs := by
  intro c hc
  have := h c hc
  simp only [isNumberChar, Bool.or_eq_false_iff] at this
  exact this.1.1.1

/-- All digits of a number that fits into 64 bits are taken in. -/
theorem appendDigits_of_lt {ds : List Char} {n : Nat} (h : Nat.ofDigitChars 10 ds n < UInt64.size) :
    appendDigits n ds = (Nat.ofDigitChars 10 ds n, 0) := by
  induction ds generalizing n with
  | nil => rfl
  | cons c ds ih =>
    rw [Nat.ofDigitChars_cons] at h ⊢
    -- The value only grows with each digit, so it fits all the way.
    have hle : 10 * n + (c.toNat - '0'.toNat) ≤
        Nat.ofDigitChars 10 ds (10 * n + (c.toNat - '0'.toNat)) := by
      rw [Nat.ofDigitChars_eq_ofDigitChars_zero]
      exact Nat.le_trans (Nat.le_mul_of_pos_left _ (Nat.pow_pos (by decide))) (Nat.le_add_right _ _)
    rw [appendDigits, if_pos (Nat.lt_of_le_of_lt hle h)]
    exact ih h

/-- A row of digits is a number without sign, fraction and exponent. -/
theorem scanNumeral_digits (n : Nat) {rest : List Char} (hrest : Stops isNumberChar rest) :
    scanNumeral (digits n ++ rest) = .ok (⟨false, digits n, [], none, false⟩, rest) := by
  have hdigits : ∀ c ∈ digits n, c.isDigit = true := fun _ => Text.Numeral.isDigit_of_mem_digits
  have hstop := not_isDigit_of_stops hrest
  have hwhole : scanWhole (digits n ++ rest) = .ok (digits n, rest) := by
    have hzero : ¬ ((digits n).head? = some '0' ∧ 1 < (digits n).length) := by
      rintro ⟨hhead, hlen⟩
      rw [Text.Numeral.eq_zero_of_head?_digits hhead] at hlen
      exact absurd hlen (by decide)
    simp only [scanWhole, takeWhile_append_of_stops hdigits hstop,
      dropWhile_append_of_stops hdigits hstop, Text.Numeral.digits_ne_nil, hzero, if_false]
  have hfraction : scanFraction rest = .ok (none, rest) := by
    rw [scanFraction]
    rintro cs rfl
    simp [isNumberChar] at hrest
  have hexponent : scanExponent rest = .ok (none, rest) := by
    cases rest with
    | nil => rfl
    | cons c cs =>
      have hc : c ≠ 'e' ∧ c ≠ 'E' := by
        simp only [Text.stops_cons, isNumberChar, Bool.or_eq_false_iff, beq_eq_false_iff_ne] at hrest
        exact ⟨hrest.1.2, hrest.2⟩
      rw [scanExponent.eq_def]
      simp only [hc, or_self, if_false]
  rw [scanNumeral]
  · simp only [hwhole, hfraction, hexponent]
    rfl
  · -- A digit is no sign.
    intro r hr
    obtain ⟨c, cs, hcons, hc⟩ := Text.Numeral.exists_digits_eq_cons n
    rw [hcons, List.cons_append, List.cons.injEq] at hr
    rw [hr.1] at hc
    exact absurd hc (by decide)

theorem scanNumber_digits {n : Nat} (h : n < UInt64.size) {rest : List Char}
    (hrest : Stops isNumberChar rest) :
    scanNumber (digits n ++ rest) = (.number (.natural n), some rest) := by
  have hvalue : Nat.ofDigitChars 10 (digits n) 0 = n := Text.Numeral.value_digits n
  have hall : appendDigits 0 (digits n) = (n, 0) := by
    rw [appendDigits_of_lt (by rw [hvalue]; exact h), hvalue]
  rw [scanNumber, scanNumeral_digits n hrest]
  simp [Numeral.number?, hall]

/-! ## The grammar -/

/-- A part of a text: a value, or the items or members of one from the first of them on. -/
inductive Node
  | value (j : Json)
  | items (js : List Json)
  | members (ms : List (String × Json))

/--
The texts of a part. Items and members go up to the bracket that closes them; between any two
symbols there may be blanks.
-/
inductive Spells : Node → List Char → Prop
  | null : Spells (.value .null) ['n', 'u', 'l', 'l']
  | isTrue : Spells (.value (.bool true)) ['t', 'r', 'u', 'e']
  | isFalse : Spells (.value (.bool false)) ['f', 'a', 'l', 's', 'e']
  | natural {n : Nat} (h : n < UInt64.size) : Spells (.value (.natural n)) (digits n)
  | string (s : String) : Spells (.value (.string s)) (quote s)
  | emptyArray : Spells (.value (.array [])) ['[', ']']
  | array {js : List Json} {w cs : List Char} (hw : Blank w) (h : Spells (.items js) cs) :
      Spells (.value (.array js)) ('[' :: (w ++ cs))
  | emptyObject : Spells (.value (.object [])) ['\x7b', '\x7d']
  | object {ms : List (String × Json)} {w cs : List Char} (hw : Blank w)
      (h : Spells (.members ms) cs) : Spells (.value (.object ms)) ('\x7b' :: (w ++ cs))
  | lastItem {j : Json} {cs w : List Char} (h : Spells (.value j) cs) (hw : Blank w) :
      Spells (.items [j]) (cs ++ (w ++ [']']))
  | nextItem {j : Json} {js : List Json} {cs w v ds : List Char} (h : Spells (.value j) cs)
      (hw : Blank w) (hv : Blank v) (hs : Spells (.items js) ds) :
      Spells (.items (j :: js)) (cs ++ (w ++ ',' :: (v ++ ds)))
  | lastMember {name : String} {j : Json} {u cs w : List Char} (hu : Blank u)
      (h : Spells (.value j) cs) (hw : Blank w) :
      Spells (.members [(name, j)]) (quote name ++ ':' :: (u ++ (cs ++ (w ++ ['\x7d']))))
  | nextMember {name : String} {j : Json} {ms : List (String × Json)} {u cs w v ds : List Char}
      (hu : Blank u) (h : Spells (.value j) cs) (hw : Blank w) (hv : Blank v)
      (hs : Spells (.members ms) ds) :
      Spells (.members ((name, j) :: ms)) (quote name ++ ':' :: (u ++ (cs ++ (w ++ ',' :: (v ++ ds)))))

/-- A part starts with a symbol of its own, neither a blank nor the end of a list. -/
theorem Spells.exists_cons {n : Node} {cs : List Char} (h : Spells n cs) :
    ∃ c ds, cs = c :: ds ∧ isSpace c = false ∧ c ≠ ']' := by
  induction h with
  | null | isTrue | isFalse | emptyArray | emptyObject => exact ⟨_, _, rfl, by decide, by decide⟩
  | natural =>
    next n _ =>
    obtain ⟨c, ds, hcons, hc⟩ := Text.Numeral.exists_digits_eq_cons n
    refine ⟨c, ds, hcons, ?_, ?_⟩
    · simp only [isSpace, Bool.or_eq_false_iff, beq_eq_false_iff_ne]
      refine ⟨⟨⟨?_, ?_⟩, ?_⟩, ?_⟩ <;> rintro rfl <;> simp at hc
    · rintro rfl
      simp at hc
  | string | array | object | lastMember | nextMember =>
    exact ⟨_, _, rfl, by decide, by decide⟩
  | lastItem _ _ ih | nextItem _ _ _ _ ih =>
    obtain ⟨c, ds, rfl, hspace, hclose⟩ := ih
    exact ⟨c, _, rfl, hspace, hclose⟩

/-- The members of an object start with the quote of a name. -/
theorem Spells.exists_quote {ms : List (String × Json)} {cs : List Char}
    (h : Spells (.members ms) cs) : ∃ ds, cs = '"' :: ds := by
  cases h with
  | lastMember | nextMember => exact ⟨_, rfl⟩

/-! ## The scanner on the grammar -/

/-- The scanner takes a text for a part, whatever follows it; two steps a character are enough. -/
def Node.ScannedFrom : Node → List Char → Prop
  | .value j, cs => ∀ fuel rest, 2 * cs.length ≤ fuel → Stops isNumberChar rest →
      scanValue fuel (cs ++ rest) = (j.toDocument, some rest)
  | .items js, cs => ∀ fuel rest, 2 * cs.length + 1 ≤ fuel →
      scanItems fuel (cs ++ rest) = (js.map toDocument, .closed, some rest)
  | .members ms, cs => ∀ fuel rest ds, cs = '"' :: ds → 2 * cs.length + 1 ≤ fuel →
      scanMembers fuel (ds ++ rest) =
        (ms.map fun m => (.ok m.1, m.2.toDocument), .closed, some rest)

/-! ### By the first symbol of a value -/

theorem scanValue_null (fuel : Nat) (rest : List Char) :
    scanValue (fuel + 1) ('n' :: 'u' :: 'l' :: 'l' :: rest) = (.null, some rest) := by
  simp [scanValue, skipSpace_cons (by decide : isSpace 'n' = false), scanLiteral]

theorem scanValue_true (fuel : Nat) (rest : List Char) :
    scanValue (fuel + 1) ('t' :: 'r' :: 'u' :: 'e' :: rest) = (.bool true, some rest) := by
  simp [scanValue, skipSpace_cons (by decide : isSpace 't' = false), scanLiteral]

theorem scanValue_false (fuel : Nat) (rest : List Char) :
    scanValue (fuel + 1) ('f' :: 'a' :: 'l' :: 's' :: 'e' :: rest) = (.bool false, some rest) := by
  simp [scanValue, skipSpace_cons (by decide : isSpace 'f' = false), scanLiteral]

theorem scanValue_quote (fuel : Nat) {cs rest : List Char} {q : Quoted}
    (h : scanString cs = .ok (q, rest)) :
    scanValue (fuel + 1) ('"' :: cs) = (.string q, some rest) := by
  simp [scanValue, skipSpace_cons (by decide : isSpace '"' = false), h]

theorem scanValue_digit (fuel : Nat) {c : Char} (hc : c.isDigit = true) (cs : List Char) :
    scanValue (fuel + 1) (c :: cs) = scanNumber (c :: cs) := by
  have hspace : isSpace c = false := by
    simp only [isSpace, Bool.or_eq_false_iff, beq_eq_false_iff_ne]
    refine ⟨⟨⟨?_, ?_⟩, ?_⟩, ?_⟩ <;> rintro rfl <;> simp at hc
  have hne : ∀ d : Char, d.isDigit = false → c ≠ d := by
    rintro d hd rfl
    simp [hc] at hd
  simp only [scanValue, skipSpace_cons hspace, hne 'n' rfl, hne 't' rfl, hne 'f' rfl, hne '"' rfl,
    hne '[' rfl, hne '\x7b' rfl, hc, or_true, if_false, if_true]

theorem scanValue_emptyArray (fuel : Nat) (rest : List Char) :
    scanValue (fuel + 1) ('[' :: ']' :: rest) = (.array [] .closed, some rest) := by
  simp [scanValue, skipSpace_cons (by decide : isSpace '[' = false),
    skipSpace_cons (by decide : isSpace ']' = false)]

theorem scanValue_array {fuel : Nat} {w cs : List Char} {c : Char} {items : List Document}
    {tail : Tail} {rest : Option (List Char)} (hw : Blank w) (hc : isSpace c = false) (hne : c ≠ ']')
    (h : scanItems fuel (c :: cs) = (items, tail, rest)) :
    scanValue (fuel + 1) ('[' :: (w ++ c :: cs)) = (.array items tail, rest) := by
  simp [scanValue, skipSpace_cons (by decide : isSpace '[' = false), skipSpace_blank_append hw,
    skipSpace_cons hc, hne, h]

theorem scanValue_emptyObject (fuel : Nat) (rest : List Char) :
    scanValue (fuel + 1) ('\x7b' :: '\x7d' :: rest) = (.object [] .closed, some rest) := by
  simp [scanValue, skipSpace_cons (by decide : isSpace '\x7b' = false),
    skipSpace_cons (by decide : isSpace '\x7d' = false)]

theorem scanValue_object {fuel : Nat} {w cs : List Char} {members : List (Quoted × Document)}
    {tail : Tail} {rest : Option (List Char)} (hw : Blank w)
    (h : scanMembers fuel cs = (members, tail, rest)) :
    scanValue (fuel + 1) ('\x7b' :: (w ++ '"' :: cs)) = (.object members tail, rest) := by
  simp [scanValue, skipSpace_cons (by decide : isSpace '\x7b' = false), skipSpace_blank_append hw,
    skipSpace_cons (by decide : isSpace '"' = false), h]

/-! ### Items and members -/

theorem scanItems_last {fuel : Nat} {cs w rest : List Char} {d : Document} (hw : Blank w)
    (h : scanValue fuel cs = (d, some (w ++ ']' :: rest))) :
    scanItems (fuel + 1) cs = ([d], .closed, some rest) := by
  simp [scanItems, h, skipSpace_blank_append hw, skipSpace_cons (by decide : isSpace ']' = false)]

theorem scanItems_next {fuel : Nat} {cs w v ds : List Char} {c : Char} {d : Document}
    {items : List Document} {tail : Tail} {rest : Option (List Char)} (hw : Blank w) (hv : Blank v)
    (hc : isSpace c = false) (hne : c ≠ ']')
    (h : scanValue fuel cs = (d, some (w ++ ',' :: (v ++ c :: ds))))
    (hs : scanItems fuel (c :: ds) = (items, tail, rest)) :
    scanItems (fuel + 1) cs = (d :: items, tail, rest) := by
  simp [scanItems, h, skipSpace_blank_append hw, skipSpace_cons (by decide : isSpace ',' = false),
    skipSpace_blank_append hv, skipSpace_cons hc, hne, hs]

theorem scanMembers_last {fuel : Nat} {cs ds w rest : List Char} {key : Quoted} {d : Document}
    (hw : Blank w) (hkey : scanString cs = .ok (key, ':' :: ds))
    (h : scanValue fuel ds = (d, some (w ++ '\x7d' :: rest))) :
    scanMembers (fuel + 1) cs = ([(key, d)], .closed, some rest) := by
  simp [scanMembers, hkey, skipSpace_cons (by decide : isSpace ':' = false), h,
    skipSpace_blank_append hw, skipSpace_cons (by decide : isSpace '\x7d' = false)]

theorem scanMembers_next {fuel : Nat} {cs ds w v es : List Char} {key : Quoted} {d : Document}
    {members : List (Quoted × Document)} {tail : Tail} {rest : Option (List Char)} (hw : Blank w)
    (hv : Blank v) (hkey : scanString cs = .ok (key, ':' :: ds))
    (h : scanValue fuel ds = (d, some (w ++ ',' :: (v ++ '"' :: es))))
    (hs : scanMembers fuel es = (members, tail, rest)) :
    scanMembers (fuel + 1) cs = ((key, d) :: members, tail, rest) := by
  simp [scanMembers, hkey, skipSpace_cons (by decide : isSpace ':' = false), h,
    skipSpace_blank_append hw, skipSpace_cons (by decide : isSpace ',' = false),
    skipSpace_blank_append hv, skipSpace_cons (by decide : isSpace '"' = false), hs]

/-! ### Whole parts -/

theorem stops_of_symbol {w cs : List Char} {c : Char} (hw : Blank w) (hc : isNumberChar c = false) :
    Stops isNumberChar (w ++ c :: cs) :=
  stops_blank_append hw (by simpa using hc)

/-- **A text that spells a part out is followed to its end.** -/
theorem scannedFrom_of_spells {n : Node} {cs : List Char} (h : Spells n cs) : n.ScannedFrom cs := by
  -- A part has a symbol of its own at each step of the scanner, so the fuel is never used up.
  induction h with
  | null =>
    intro fuel rest hfuel _
    obtain ⟨fuel, rfl⟩ := Nat.exists_eq_add_of_le' (Nat.le_trans (by simp) hfuel : 1 ≤ fuel)
    exact scanValue_null fuel rest
  | isTrue =>
    intro fuel rest hfuel _
    obtain ⟨fuel, rfl⟩ := Nat.exists_eq_add_of_le' (Nat.le_trans (by simp) hfuel : 1 ≤ fuel)
    exact scanValue_true fuel rest
  | isFalse =>
    intro fuel rest hfuel _
    obtain ⟨fuel, rfl⟩ := Nat.exists_eq_add_of_le' (Nat.le_trans (by simp) hfuel : 1 ≤ fuel)
    exact scanValue_false fuel rest
  | @natural n hn =>
    intro fuel rest hfuel hrest
    obtain ⟨c, ds, hcons, hc⟩ := Text.Numeral.exists_digits_eq_cons n
    have hscan := scanNumber_digits hn hrest
    rw [hcons] at hfuel hscan ⊢
    obtain ⟨fuel, rfl⟩ := Nat.exists_eq_add_of_le' (Nat.le_trans (by simp; omega) hfuel : 1 ≤ fuel)
    rw [List.cons_append, scanValue_digit fuel hc]
    exact hscan
  | string s =>
    intro fuel rest hfuel _
    obtain ⟨fuel, rfl⟩ := Nat.exists_eq_add_of_le' (Nat.le_trans (by simp [quote]; omega) hfuel : 1 ≤ fuel)
    have hstring := scanString_quote s rest
    rw [quote, List.cons_append, List.append_assoc, List.singleton_append]
    exact scanValue_quote fuel hstring
  | emptyArray =>
    intro fuel rest hfuel _
    obtain ⟨fuel, rfl⟩ := Nat.exists_eq_add_of_le' (Nat.le_trans (by simp) hfuel : 1 ≤ fuel)
    exact scanValue_emptyArray fuel rest
  | array hw h ih =>
    intro fuel rest hfuel _
    simp only [List.length_cons, List.length_append] at hfuel
    obtain ⟨fuel, rfl⟩ := Nat.exists_eq_add_of_le' (Nat.le_trans (by omega) hfuel : 1 ≤ fuel)
    obtain ⟨c, ds, rfl, hc, hne⟩ := h.exists_cons
    have hitems := ih fuel rest (by omega)
    rw [toDocument, toDocuments_eq_map, List.cons_append, List.append_assoc]
    exact scanValue_array hw hc hne hitems
  | emptyObject =>
    intro fuel rest hfuel _
    obtain ⟨fuel, rfl⟩ := Nat.exists_eq_add_of_le' (Nat.le_trans (by simp) hfuel : 1 ≤ fuel)
    exact scanValue_emptyObject fuel rest
  | object hw h ih =>
    intro fuel rest hfuel _
    simp only [List.length_cons, List.length_append] at hfuel
    obtain ⟨fuel, rfl⟩ := Nat.exists_eq_add_of_le' (Nat.le_trans (by omega) hfuel : 1 ≤ fuel)
    obtain ⟨ds, rfl⟩ := h.exists_quote
    have hmembers := ih fuel rest ds rfl (by omega)
    rw [toDocument, toMembers_eq_map, List.cons_append, List.append_assoc]
    exact scanValue_object hw hmembers
  | lastItem _ hw ih =>
    intro fuel rest hfuel
    simp only [List.length_append] at hfuel
    obtain ⟨fuel, rfl⟩ := Nat.exists_eq_add_of_le' (Nat.le_trans (by omega) hfuel : 1 ≤ fuel)
    -- The bracket behind the item keeps a number from going on.
    have hitem := ih fuel (_ ++ ']' :: rest) (by omega) (stops_of_symbol hw (by decide))
    rw [List.append_assoc, List.append_assoc]
    exact scanItems_last hw hitem
  | @nextItem j js cs w v _ _ hw hv hs ih ihs =>
    intro fuel rest hfuel
    simp only [List.length_append, List.length_cons] at hfuel
    obtain ⟨fuel, rfl⟩ := Nat.exists_eq_add_of_le' (Nat.le_trans (by omega) hfuel : 1 ≤ fuel)
    obtain ⟨c, ds, rfl, hc, hne⟩ := hs.exists_cons
    have hitems := ihs fuel rest (by omega)
    have hitem := ih fuel (w ++ ',' :: (v ++ (c :: ds ++ rest))) (by omega)
      (stops_of_symbol hw (by decide))
    rw [List.append_assoc, List.append_assoc, List.cons_append, List.append_assoc]
    exact scanItems_next hw hv hc hne hitem hitems
  | @lastMember name j u cs w hu _ hw ih =>
    rintro fuel rest ds heq hfuel
    simp only [List.length_append, List.length_cons] at hfuel
    obtain ⟨fuel, rfl⟩ := Nat.exists_eq_add_of_le' (Nat.le_trans (by omega) hfuel : 1 ≤ fuel)
    have hvalue := ih fuel (w ++ '\x7d' :: rest) (by omega) (stops_of_symbol hw (by decide))
    have hname := scanString_quote name (':' :: (u ++ (cs ++ (w ++ '\x7d' :: rest))))
    -- The blanks behind the colon belong to the value.
    rw [← scanValue_blank_append hu] at hvalue
    rw [quote, List.cons_append, List.cons.injEq] at heq
    rw [← heq.2]
    exact scanMembers_last hw (by simpa using hname) hvalue
  | @nextMember name j ms u cs w v ds hu _ hw hv hs ih ihs =>
    rintro fuel rest body heq hfuel
    simp only [List.length_append, List.length_cons] at hfuel
    obtain ⟨fuel, rfl⟩ := Nat.exists_eq_add_of_le' (Nat.le_trans (by omega) hfuel : 1 ≤ fuel)
    obtain ⟨es, rfl⟩ := hs.exists_quote
    have hmembers := ihs fuel rest es rfl (by omega)
    have hvalue := ih fuel (w ++ ',' :: (v ++ '"' :: (es ++ rest))) (by omega)
      (stops_of_symbol hw (by decide))
    have hname := scanString_quote name (':' :: (u ++ (cs ++ (w ++ ',' :: (v ++ '"' :: (es ++ rest))))))
    rw [← scanValue_blank_append hu] at hvalue
    rw [quote, List.cons_append, List.cons.injEq] at heq
    rw [← heq.2]
    exact scanMembers_next hw hv (by simpa using hname) hvalue hmembers

/-- A text that spells a value out and nothing else is that value's document. -/
theorem ofText_of_spells {j : Json} {cs : List Char} (h : Spells (.value j) cs) :
    Document.ofText cs = (j.toDocument, none) := by
  have hscan := scannedFrom_of_spells h (2 * cs.length + 2) [] (by omega) (by simp)
  rw [List.append_nil] at hscan
  simp only [Document.ofText, hscan]
  rfl

/-! ## The printer -/

mutual

/-- Every number in a value is a natural number of 64 bits. -/
def IsPlain : Json → Prop
  | .number (.natural n) => n < UInt64.size
  | .number _ => False
  | .array items => ArePlain items
  | .object members => HavePlain members
  | _ => True

def ArePlain : List Json → Prop
  | [] => True
  | j :: js => IsPlain j ∧ ArePlain js

def HavePlain : List (String × Json) → Prop
  | [] => True
  | (_, j) :: ms => IsPlain j ∧ HavePlain ms

end

theorem blank_newLine (level : Nat) : Blank (newLine level) := by
  intro c hc
  rcases List.mem_cons.1 hc with rfl | hc
  · decide
  · obtain ⟨-, rfl⟩ := List.mem_replicate.1 hc
    decide

mutual

/-- A printed value is a text that spells it out. -/
theorem spells_pretty (level : Nat) : ∀ j : Json, IsPlain j → Spells (.value j) (pretty level j)
  | .null, _ => .null
  | .bool true, _ => .isTrue
  | .bool false, _ => .isFalse
  | .number (.natural _), h => .natural h
  | .string s, _ => .string s
  | .array [], _ => .emptyArray
  | .array (j :: js), h =>
    .array (blank_newLine _) (spells_prettyItems level js (spells_pretty (level + 1) j h.1) h.2)
  | .object [], _ => .emptyObject
  | .object ((_, j) :: ms), h =>
    .object (blank_newLine _) (spells_prettyMembers level ms (spells_pretty (level + 1) j h.1) h.2)

/-- The items after one that is spelled out. -/
theorem spells_prettyItems (level : Nat) : ∀ (js : List Json) {j : Json} {cs : List Char},
    Spells (.value j) cs → ArePlain js → Spells (.items (j :: js)) (cs ++ prettyItems level js)
  | [], _, _, hj, _ => .lastItem hj (blank_newLine _)
  | k :: js, _, _, hj, h =>
    .nextItem (w := []) hj blank_nil (blank_newLine _)
      (spells_prettyItems level js (spells_pretty (level + 1) k h.1) h.2)

/-- The members after one that is spelled out. -/
theorem spells_prettyMembers (level : Nat) : ∀ (ms : List (String × Json)) {name : String} {j : Json}
    {cs : List Char}, Spells (.value j) cs → HavePlain ms →
    Spells (.members ((name, j) :: ms)) (quote name ++ ':' :: ' ' :: (cs ++ prettyMembers level ms))
  | [], _, _, _, hj, _ => .lastMember blank_space hj (blank_newLine _)
  | (_, k) :: ms, _, _, _, hj, h =>
    .nextMember (w := []) blank_space hj blank_nil (blank_newLine _)
      (spells_prettyMembers level ms (spells_pretty (level + 1) k h.1) h.2)

end

/-- **What is printed over several lines is read back as the document of the value.** -/
theorem ofText_pretty {j : Json} (h : IsPlain j) (level : Nat) :
    Document.ofText (pretty level j) = (j.toDocument, none) :=
  ofText_of_spells (spells_pretty level j h)

mutual

/-- A value on one line is a text that spells it out, without blanks. -/
theorem spells_compact : ∀ j : Json, IsPlain j → Spells (.value j) (compact j)
  | .null, _ => .null
  | .bool true, _ => .isTrue
  | .bool false, _ => .isFalse
  | .number (.natural _), h => .natural h
  | .string s, _ => .string s
  | .array [], _ => .emptyArray
  | .array (j :: js), h =>
    .array (w := []) blank_nil (spells_compactItems js (spells_compact j h.1) h.2)
  | .object [], _ => .emptyObject
  | .object ((_, j) :: ms), h =>
    .object (w := []) blank_nil (spells_compactMembers ms (spells_compact j h.1) h.2)

/-- The items after one that is spelled out, on the same line. -/
theorem spells_compactItems : ∀ (js : List Json) {j : Json} {cs : List Char},
    Spells (.value j) cs → ArePlain js → Spells (.items (j :: js)) (cs ++ compactItems js)
  | [], _, _, hj, _ => .lastItem (w := []) hj blank_nil
  | k :: js, _, _, hj, h =>
    .nextItem (w := []) (v := []) hj blank_nil blank_nil
      (spells_compactItems js (spells_compact k h.1) h.2)

/-- The members after one that is spelled out, on the same line. -/
theorem spells_compactMembers : ∀ (ms : List (String × Json)) {name : String} {j : Json}
    {cs : List Char}, Spells (.value j) cs → HavePlain ms →
    Spells (.members ((name, j) :: ms)) (quote name ++ ':' :: (cs ++ compactMembers ms))
  | [], _, _, _, hj, _ => .lastMember (u := []) (w := []) blank_nil hj blank_nil
  | (_, k) :: ms, _, _, _, hj, h =>
    .nextMember (u := []) (w := []) (v := []) blank_nil hj blank_nil blank_nil
      (spells_compactMembers ms (spells_compact k h.1) h.2)

end

/-- **What is printed on one line is read back as the document of the value.** -/
theorem ofText_compact {j : Json} (h : IsPlain j) : Document.ofText (compact j) = (j.toDocument, none) :=
  ofText_of_spells (spells_compact j h)

end VisualNovel.Json
