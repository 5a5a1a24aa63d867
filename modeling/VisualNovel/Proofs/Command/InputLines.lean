/-
  VisualNovel.Proofs.Command.InputLines

  The lines of an input that is a text. The bytes are cut into lines before they
  are decoded. No byte of an encoded character is a line feed or a return, these
  two characters apart, so the lines of the bytes spell the lines of the text
  (`inputLines_toUTF8`). In particular each of them can be read.
-/

import VisualNovel.Command.Play
import VisualNovel.Proofs.Text.Bytes

namespace VisualNovel.Command

open Text (encode encode_nil encode_cons encode_toList)

/-! ## Bytes of characters -/

theorem decodeLine_encode (cs : List Char) : decodeLine (encode cs) = .ok (.ofList cs) := by
  have hbytes : (⟨(encode cs).toArray⟩ : ByteArray) = (String.ofList cs).toByteArray := by
    rw [String.toByteArray_ofList, List.utf8Encode]
    apply ByteArray.ext
    rw [List.data_toByteArray]
    rfl
  have hread : String.fromUTF8? ⟨(encode cs).toArray⟩ = some (.ofList cs) := by
    rw [hbytes, String.fromUTF8?, dif_pos (String.ofList cs).isValidUTF8]
    rfl
  simp only [decodeLine, hread]

/-- A line feed and a return are bytes of their own, and of no other character. -/
theorem utf8EncodeChar_cases (c : Char) :
    (c = '\n' ∧ String.utf8EncodeChar c = [10]) ∨ (c = '\r' ∧ String.utf8EncodeChar c = [13]) ∨
      (c ≠ '\n' ∧ c ≠ '\r' ∧ String.utf8EncodeChar c ≠ [] ∧
        ∀ b ∈ String.utf8EncodeChar c, b ≠ 10 ∧ b ≠ 13) := by
  by_cases hfeed : c = '\n'
  · exact .inl ⟨hfeed, by rw [hfeed]; decide⟩
  by_cases hreturn : c = '\r'
  · exact .inr (.inl ⟨hreturn, by rw [hreturn]; decide⟩)
  have hfeed' : c.val.toNat ≠ 10 := fun e => hfeed (Char.ext (UInt32.toNat_inj.1 e))
  have hreturn' : c.val.toNat ≠ 13 := fun e => hreturn (Char.ext (UInt32.toNat_inj.1 e))
  refine .inr (.inr ⟨hfeed, hreturn, ?_, ?_⟩)
  · fun_cases String.utf8EncodeChar c <;> simp
  · -- A character of one byte is that byte; of more bytes each is at least 128.
    intro b
    rw [Ne, Ne, ← UInt8.toNat_inj, ← UInt8.toNat_inj]
    fun_cases String.utf8EncodeChar c
    all_goals
      simp only [List.mem_cons, List.not_mem_nil, or_false]
      rintro (rfl | rfl | rfl | rfl) <;> simp <;> omega

/-! ## Lines of bytes -/

/-- The lines of some bytes, before they are decoded. -/
def lineBytes (bytes : List UInt8) : List (List UInt8) :=
  let pieces := Text.splitOn (· == 10) bytes
  let rest := pieces.getLast?.getD []
  pieces.dropLast.map dropReturn ++ (if rest = [] then [] else [rest])

theorem inputLines_eq (bytes : List UInt8) : inputLines bytes = (lineBytes bytes).map decodeLine := rfl

/-- Puts something in front of the first line, or makes it the only one. -/
def extendFirst {α : Type} (as : List α) : List (List α) → List (List α)
  | [] => [as]
  | l :: ls => (as ++ l) :: ls

theorem lineBytes_feed (bs : List UInt8) : lineBytes (10 :: bs) = [] :: lineBytes bs := by
  obtain ⟨p, ps, hbs⟩ := List.exists_cons_of_ne_nil (Text.splitOn_ne_nil (· == 10) bs)
  have hsplit : Text.splitOn (· == 10) (10 :: bs) = [] :: p :: ps := by simp [Text.splitOn, hbs]
  simp [lineBytes, hsplit, hbs, dropReturn]

theorem lineBytes_return_feed (bs : List UInt8) : lineBytes (13 :: 10 :: bs) = [] :: lineBytes bs := by
  obtain ⟨p, ps, hbs⟩ := List.exists_cons_of_ne_nil (Text.splitOn_ne_nil (· == 10) bs)
  have hsplit : Text.splitOn (· == 10) (13 :: 10 :: bs) = [13] :: p :: ps := by simp [Text.splitOn, hbs]
  simp [lineBytes, hsplit, hbs, dropReturn]

/-- Only a line feed at the front makes the first of several pieces empty. -/
theorem head?_of_splitOn {bs q : List UInt8} {qs : List (List UInt8)}
    (h : Text.splitOn (· == 10) bs = [] :: q :: qs) : bs.head? = some 10 := by
  cases bs with
  | nil => cases h
  | cons b bs =>
    obtain ⟨p, ps, hbs⟩ := List.exists_cons_of_ne_nil (Text.splitOn_ne_nil (· == 10) bs)
    simp only [Text.splitOn, hbs] at h
    split at h
    · next hb => simpa using hb
    · cases h

/-- A byte that ends no line belongs to the first one. -/
theorem lineBytes_cons {b : UInt8} {bs : List UInt8} (hb : b ≠ 10) (hreturn : b = 13 → bs.head? ≠ some 10) :
    lineBytes (b :: bs) = extendFirst [b] (lineBytes bs) := by
  obtain ⟨p, ps, hbs⟩ := List.exists_cons_of_ne_nil (Text.splitOn_ne_nil (· == 10) bs)
  have hsplit : Text.splitOn (· == 10) (b :: bs) = (b :: p) :: ps := by simp [Text.splitOn, hbs, hb]
  cases ps with
  | nil =>
    -- The line is the last one and keeps a return at its end.
    cases p <;> simp [lineBytes, hsplit, hbs, extendFirst]
  | cons q qs =>
    have hdrop : dropReturn (b :: p) = b :: dropReturn p := by
      cases p with
      | nil =>
        have hb' : b ≠ 13 := fun e => hreturn e (head?_of_splitOn hbs)
        simp [dropReturn, hb']
      | cons a as =>
        simp only [dropReturn, List.getLast?_cons_cons, List.dropLast_cons_cons]
        split <;> rfl
    simp [lineBytes, hsplit, hbs, hdrop, extendFirst]

theorem extendFirst_append {α : Type} (as bs : List α) (ls : List (List α)) :
    extendFirst (as ++ bs) ls = extendFirst as (extendFirst bs ls) := by
  cases ls <;> simp [extendFirst]

theorem lineBytes_append {as bs : List UInt8} (hne : as ≠ []) (has : ∀ b ∈ as, b ≠ 10 ∧ b ≠ 13) :
    lineBytes (as ++ bs) = extendFirst as (lineBytes bs) := by
  induction as with
  | nil => exact absurd rfl hne
  | cons a as ih =>
    obtain ⟨⟨hfeed, hreturn⟩, hrest⟩ := List.forall_mem_cons.1 has
    rw [List.cons_append, lineBytes_cons hfeed fun e => absurd e hreturn]
    by_cases has : as = []
    · rw [has]
      rfl
    · rw [ih has hrest, ← extendFirst_append]
      rfl

/-! ## Lines of texts -/

theorem head?_encode {cs : List Char} (h : (encode cs).head? = some 10) : ∃ rest, cs = '\n' :: rest := by
  cases cs with
  | nil => cases h
  | cons c cs =>
    rcases utf8EncodeChar_cases c with ⟨rfl, -⟩ | ⟨rfl, henc⟩ | ⟨-, -, hne, hbytes⟩
    · exact ⟨cs, rfl⟩
    · rw [encode_cons, henc] at h
      cases h
    · obtain ⟨b, bs, hb⟩ := List.exists_cons_of_ne_nil hne
      rw [encode_cons, hb] at h
      exact absurd (Option.some.inj h) (hbytes b (by simp [hb])).1

/-- A character that ends no line belongs to the first one. -/
theorem lineBytes_encode_cons {c : Char} {cs : List Char} (hfeed : c ≠ '\n')
    (hreturn : ∀ rest, c = '\r' → cs ≠ '\n' :: rest) :
    lineBytes (encode (c :: cs)) = extendFirst (String.utf8EncodeChar c) (lineBytes (encode cs)) := by
  rw [encode_cons]
  rcases utf8EncodeChar_cases c with ⟨hc, -⟩ | ⟨hc, henc⟩ | ⟨-, -, hne, hbytes⟩
  · exact absurd hc hfeed
  · rw [henc]
    apply lineBytes_cons (by decide)
    intro _ hhead
    obtain ⟨rest, hrest⟩ := head?_encode hhead
    exact hreturn rest hc hrest
  · exact lineBytes_append hne hbytes

theorem lineBytes_encode (cs : List Char) : lineBytes (encode cs) = (Text.lines cs).map encode := by
  -- A return before a line feed is the one case in which two characters go together.
  fun_induction Text.lines cs
  case case1 => rfl
  case case2 cs ih =>
    rw [List.map_cons, ← ih]
    exact lineBytes_return_feed (encode cs)
  case case3 cs ih =>
    rw [List.map_cons, ← ih]
    exact lineBytes_feed (encode cs)
  case case4 c cs hreturn hfeed hlines ih =>
    rw [lineBytes_encode_cons hfeed hreturn, ih, hlines]
    simp [extendFirst, encode_cons]
  case case5 c cs hreturn hfeed l ls hlines ih =>
    rw [lineBytes_encode_cons hfeed hreturn, ih, hlines]
    rfl

/-- **The lines of an input.** The input of a text is read as the lines of the text. -/
theorem inputLines_toUTF8 (s : String) :
    inputLines s.toUTF8.data.toList = (Text.lines s.toList).map fun l => .ok (.ofList l) := by
  rw [inputLines_eq, ← encode_toList, lineBytes_encode, List.map_map]
  exact List.map_congr_left fun l _ => decodeLine_encode l

end VisualNovel.Command
