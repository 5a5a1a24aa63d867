/-
  VisualNovel.Proofs.Json.Quoted

  A text in quotes is read back as it was, whatever characters it holds and
  whatever follows the closing quote. An escape is one piece of the quoted
  string, and `join` turns that piece into the character it was written for;
  `scanString_quote` is what the scanner of whole values consumes.
-/

import VisualNovel.Json.Quote

namespace VisualNovel.Json

/-! ## Hexadecimal digits -/

theorem hexValue?_hexDigit : ∀ n < 16, hexValue? (hexDigit n) = some n := by
  decide

/-- The unit of a control character has that character's code. -/
theorem unit?_control {n : Nat} (h : n < 0x20) :
    unit? '0' '0' (hexDigit (n / 16)) (hexDigit (n % 16)) = some n := by
  have hzero : hexValue? '0' = some 0 := by decide
  have hhigh := hexValue?_hexDigit (n / 16) (by omega)
  have hlow := hexValue?_hexDigit (n % 16) (by omega)
  simp only [unit?, hzero, hhigh, hlow, Option.bind_some, Option.map_some, Option.some.injEq]
  omega

/-! ## One character -/

/-- A piece stands for a character, whatever pieces follow it. -/
def Piece.StandsFor (p : Piece) (c : Char) : Prop :=
  ∀ ending ps, join ending (p :: ps) = (join ending ps).map (c :: ·)

theorem standsFor_char (c : Char) : (Piece.char c).StandsFor c := by
  intro ending ps
  rw [join.eq_def]

/-- A unit below the surrogates stands for the character of that code. -/
theorem standsFor_unit {c : Char} (h : c.toNat < 0x20) : (Piece.unit c.toNat).StandsFor c := by
  intro ending ps
  have hlow : isLowSurrogate c.toNat = false := by
    simp only [isLowSurrogate, Bool.and_eq_false_iff, decide_eq_false_iff_not]
    omega
  have hhigh : isHighSurrogate c.toNat = false := by
    simp only [isHighSurrogate, Bool.and_eq_false_iff, decide_eq_false_iff_not]
    omega
  rw [join.eq_def]
  simp only [hlow, hhigh, Char.ofNat_toNat, Bool.false_eq_true, if_false]

/-- A letter escape is the piece of its character. -/
theorem pieces_letter {e x : Char} (h : unescape? e = some x) (hne : e ≠ 'u') (cs : List Char) :
    pieces ('\\' :: e :: cs) = (.char x :: (pieces cs).1, (pieces cs).2) := by
  rw [pieces.eq_def]
  simp [h, hne]

/-- Four digits are the piece of their unit. -/
theorem pieces_unit {a b c d : Char} {n : Nat} (h : unit? a b c d = some n) (cs : List Char) :
    pieces ('\\' :: 'u' :: a :: b :: c :: d :: cs) = (.unit n :: (pieces cs).1, (pieces cs).2) := by
  rw [pieces.eq_def]
  simp [h]

/-- A character that needs no escape is its own piece. -/
theorem pieces_plain {c : Char} (hquote : c ≠ '"') (hback : c ≠ '\\') (hcontrol : ¬ c.toNat < 0x20)
    (cs : List Char) : pieces (c :: cs) = (.char c :: (pieces cs).1, (pieces cs).2) := by
  rw [pieces.eq_def]
  simp only [hquote, hback, hcontrol, if_false]

@[simp] theorem pieces_quote (cs : List Char) : pieces ('"' :: cs) = ([], .quote cs) := by
  rw [pieces.eq_def]
  simp

/-- The escaped form of a character is one piece that stands for it. -/
theorem pieces_escape (c : Char) (cs : List Char) :
    ∃ p : Piece, p.StandsFor c ∧ pieces (escape c ++ cs) = (p :: (pieces cs).1, (pieces cs).2) := by
  have letter : ∀ e, unescape? e = some c → e ≠ 'u' →
      ∃ p : Piece, p.StandsFor c ∧
        pieces (['\\', e] ++ cs) = (p :: (pieces cs).1, (pieces cs).2) :=
    fun e he hne => ⟨_, standsFor_char c, pieces_letter he hne cs⟩
  unfold escape
  -- The seven characters with a letter of their own, then the other control characters.
  iterate 7
    split
    · next h => subst h; exact letter _ rfl (by decide)
  split
  · next h => exact ⟨_, standsFor_unit h, pieces_unit (unit?_control h) cs⟩
  · next hquote hback _ _ _ _ _ hcontrol =>
    exact ⟨_, standsFor_char c, pieces_plain hquote hback hcontrol cs⟩

/-! ## Whole texts -/

/-- The escaped characters of a text up to the closing quote are pieces that join to the text. -/
theorem pieces_flatMap_escape (cs rest : List Char) :
    ∃ ps, pieces (cs.flatMap escape ++ '"' :: rest) = (ps, .quote rest) ∧
      ∀ ending, join ending ps = .ok cs := by
  induction cs with
  | nil => exact ⟨[], by simp, fun _ => rfl⟩
  | cons c cs ih =>
    obtain ⟨ps, hps, hjoin⟩ := ih
    obtain ⟨p, hp, hpieces⟩ := pieces_escape c (cs.flatMap escape ++ '"' :: rest)
    refine ⟨p :: ps, ?_, ?_⟩
    · rw [List.flatMap_cons, List.append_assoc, hpieces, hps]
    · intro ending
      rw [hp, hjoin]
      rfl

/-- **A quoted text is read back**, with what follows it left over. -/
theorem scanString_quote (s : String) (rest : List Char) :
    scanString (s.toList.flatMap escape ++ '"' :: rest) = .ok (.ok s, rest) := by
  obtain ⟨ps, hps, hjoin⟩ := pieces_flatMap_escape s.toList rest
  simp only [scanString, hps, hjoin, Except.map, String.ofList_toList]

end VisualNovel.Json
