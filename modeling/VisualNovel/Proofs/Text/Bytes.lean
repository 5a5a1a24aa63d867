/-
  VisualNovel.Proofs.Text.Bytes

  A text and the bytes that encode it. A character is one to four bytes: its
  number in base 64, with a mark on the first digit that tells how many there are
  (`utf8EncodeChar_eq`). A larger number has a larger mark or larger digits, so
  texts in the order of their characters are in the order of their bytes
  (`encode_lt_encode`). No byte but the first one of a character is one that a
  character begins with, so the bytes of a text stand among those of another one
  only where the text itself does (`exists_take_of_encode_prefix_drop`).
-/

namespace VisualNovel.Text

/-- The bytes of a text. -/
def encode (cs : List Char) : List UInt8 :=
  cs.flatMap String.utf8EncodeChar

@[simp] theorem encode_nil : encode [] = [] := rfl

theorem encode_cons (c : Char) (cs : List Char) :
    encode (c :: cs) = String.utf8EncodeChar c ++ encode cs := rfl

theorem encode_toList (s : String) : encode s.toList = s.toUTF8.data.toList := by
  rw [String.toUTF8_eq_toByteArray, ← String.utf8Encode_toList, List.utf8Encode,
    List.toList_data_toByteArray]
  rfl

/-! ## Numbers in base 64 -/

/-- A number as one marked byte and `k` more bytes of six bits each. -/
def markedBytes (mark : Nat) : Nat → Nat → List UInt8
  | 0, v => [UInt8.ofNat (v + mark)]
  | k + 1, v => markedBytes mark k (v / 64) ++ [UInt8.ofNat (v % 64 + 128)]

/-- The first digit of a number that `k` more follow. -/
def firstDigit : Nat → Nat → Nat
  | 0, v => v
  | k + 1, v => firstDigit k (v / 64)

theorem exists_markedBytes_eq_cons (mark k v : Nat) :
    ∃ rest, markedBytes mark k v = UInt8.ofNat (firstDigit k v + mark) :: rest := by
  induction k generalizing v with
  | zero => exact ⟨[], rfl⟩
  | succ k ih =>
    obtain ⟨rest, hrest⟩ := ih (v / 64)
    exact ⟨rest ++ [UInt8.ofNat (v % 64 + 128)], congrArg (· ++ [UInt8.ofNat (v % 64 + 128)]) hrest⟩

theorem ofNat_lt_ofNat {m n : Nat} (h : m < n) (hn : n < 256) : UInt8.ofNat m < UInt8.ofNat n := by
  rw [UInt8.lt_iff_toNat_lt, UInt8.toNat_ofNat', UInt8.toNat_ofNat']
  omega

/-- Of two numbers with equally many bytes the larger one has the larger bytes, whatever follows. -/
theorem markedBytes_append_lt {mark k v w : Nat} (h : v < w) (hw : firstDigit k w + mark < 256)
    (xs ys : List UInt8) : markedBytes mark k v ++ xs < markedBytes mark k w ++ ys := by
  induction k generalizing v w xs ys with
  | zero => exact List.cons_lt_cons_iff.2 (.inl (ofNat_lt_ofNat (Nat.add_lt_add_right h mark) hw))
  | succ k ih =>
    rw [markedBytes, markedBytes, List.append_assoc, List.append_assoc]
    -- The first bytes decide, unless they are the same; then the last digit does.
    by_cases hfirst : v / 64 = w / 64
    · rw [hfirst]
      apply List.append_left_lt
      exact List.cons_lt_cons_iff.2 (.inl (ofNat_lt_ofNat (by omega) (by omega)))
    · exact ih (by omega) hw _ _

/-! ## Characters -/

/-- How many bytes follow the first one. -/
def followers (v : Nat) : Nat :=
  if v ≤ 127 then 0 else if v ≤ 2047 then 1 else if v ≤ 65535 then 2 else 3

/-- The mark of a first byte that so many bytes follow. -/
def followersMark : Nat → Nat
  | 0 => 0
  | 1 => 192
  | 2 => 224
  | _ => 240

theorem val_toNat_lt (c : Char) : c.val.toNat < 1114112 := by
  have hvalid := c.valid
  simp only [UInt32.isValidChar, Nat.isValidChar] at hvalid
  omega

theorem utf8EncodeChar_eq (c : Char) :
    String.utf8EncodeChar c =
      markedBytes (followersMark (followers c.val.toNat)) (followers c.val.toNat) c.val.toNat := by
  have hlt := val_toNat_lt c
  rw [String.utf8EncodeChar, followers]
  generalize c.val.toNat = v at *
  split
  · rfl
  · split
    · next h =>
      have hdigit : v / 64 % 32 = v / 64 := Nat.mod_eq_of_lt (by omega)
      rw [hdigit]
      rfl
    · split
      · next h =>
        have hdigit : v / 4096 % 16 = v / 64 / 64 := by omega
        rw [hdigit]
        rfl
      · have hdigit : v / 262144 % 8 = v / 64 / 64 / 64 := by omega
        have hnext : v / 4096 = v / 64 / 64 := by omega
        rw [hdigit, hnext]
        rfl

theorem followers_cases (v : Nat) :
    (v ≤ 127 ∧ followers v = 0) ∨ (127 < v ∧ v ≤ 2047 ∧ followers v = 1) ∨
      (2047 < v ∧ v ≤ 65535 ∧ followers v = 2) ∨ (65535 < v ∧ followers v = 3) := by
  rw [followers]
  repeat' split
  all_goals omega

theorem followersMark_mono : ∀ k ≤ 3, ∀ j ≤ k, followersMark j ≤ followersMark k := by decide

/-- A first byte stays under the marks of the characters with more bytes. -/
theorem firstByte_lt {v k : Nat} (h : followers v < k) (hk : k ≤ 3) :
    firstDigit (followers v) v + followersMark (followers v) < followersMark k := by
  refine Nat.lt_of_lt_of_le ?_ (followersMark_mono k hk (followers v + 1) h)
  rcases followers_cases v with ⟨hv, hf⟩ | ⟨-, hv, hf⟩ | ⟨-, hv, hf⟩ | ⟨-, hf⟩
  all_goals
    simp only [hf, firstDigit, followersMark]
    omega

/-- A smaller character has smaller bytes, whatever follows. -/
theorem utf8EncodeChar_append_lt {c d : Char} (h : c < d) (xs ys : List UInt8) :
    String.utf8EncodeChar c ++ xs < String.utf8EncodeChar d ++ ys := by
  have hlt : c.val.toNat < d.val.toNat := h
  have hd := val_toNat_lt d
  rw [utf8EncodeChar_eq, utf8EncodeChar_eq]
  generalize c.val.toNat = v, d.val.toNat = w at *
  have hbyte : firstDigit (followers w) w + followersMark (followers w) < 256 := by
    rcases followers_cases w with ⟨hw, hf⟩ | ⟨-, hw, hf⟩ | ⟨-, hw, hf⟩ | ⟨-, hf⟩
    all_goals
      simp only [hf, firstDigit, followersMark]
      omega
  by_cases hsame : followers v = followers w
  · rw [hsame]
    exact markedBytes_append_lt hlt hbyte xs ys
  · -- More bytes follow the first byte of `w`, so its mark is larger than all of `v`'s first byte.
    obtain ⟨vs, hvs⟩ := exists_markedBytes_eq_cons (followersMark (followers v)) (followers v) v
    obtain ⟨ws, hws⟩ := exists_markedBytes_eq_cons (followersMark (followers w)) (followers w) w
    rw [hvs, hws]
    have hv := followers_cases v
    have hw := followers_cases w
    have hfirst : firstDigit (followers v) v + followersMark (followers v) < followersMark (followers w) :=
      firstByte_lt (by omega) (by omega)
    exact List.cons_lt_cons_iff.2
      (.inl (ofNat_lt_ofNat (Nat.lt_of_lt_of_le hfirst (Nat.le_add_left _ _)) hbyte))

/-! ## Texts -/

/-- Texts in the order of their characters are in the order of their bytes. -/
theorem encode_lt_encode {cs ds : List Char} (h : cs < ds) : encode cs < encode ds := by
  induction h with
  | @nil d ds =>
    rw [encode_cons, utf8EncodeChar_eq]
    obtain ⟨rest, hrest⟩ := exists_markedBytes_eq_cons (followersMark (followers d.val.toNat))
      (followers d.val.toNat) d.val.toNat
    rw [hrest]
    exact List.nil_lt_cons _ _
  | rel hcd => exact utf8EncodeChar_append_lt hcd _ _
  | cons _ ih => exact List.append_left_lt ih

theorem toUTF8_lt_toUTF8 {s t : String} (h : s < t) :
    s.toUTF8.data.toList < t.toUTF8.data.toList := by
  rw [← encode_toList, ← encode_toList]
  exact encode_lt_encode h

/-! ## Where a text stands -/

theorem encode_append (cs ds : List Char) : encode (cs ++ ds) = encode cs ++ encode ds :=
  List.flatMap_append

/-- Of the bytes of a character the first one alone is one that a character can begin with. -/
theorem isUTF8FirstByte_getElem_utf8EncodeChar {c : Char} {i : Nat}
    (h : i < (String.utf8EncodeChar c).length) :
    (String.utf8EncodeChar c)[i].IsUTF8FirstByte ↔ i = 0 := by
  have hsize : i < [c].utf8Encode.size := by
    rw [List.utf8Encode_singleton, List.size_toByteArray]
    exact h
  have hfirst : [c].utf8Encode[i].IsUTF8FirstByte ↔ i = 0 := List.isUTF8FirstByte_getElem_utf8Encode_singleton
  simpa only [List.utf8Encode_singleton, List.getElem_toByteArray] using hfirst

/-- The bytes of a text begin like a character. -/
theorem exists_encode_eq_cons {cs : List Char} (h : cs ≠ []) :
    ∃ b bs, encode cs = b :: bs ∧ b.IsUTF8FirstByte := by
  obtain ⟨c, cs, rfl⟩ := List.exists_cons_of_ne_nil h
  have hpos : 0 < (String.utf8EncodeChar c).length := String.length_utf8EncodeChar c ▸ c.utf8Size_pos
  have hfirst := (isUTF8FirstByte_getElem_utf8EncodeChar hpos).2 rfl
  generalize hbytes : String.utf8EncodeChar c = bytes at hpos hfirst
  cases bytes with
  | nil => cases hpos
  | cons b bs => exact ⟨b, bs ++ encode cs, by rw [encode_cons, hbytes]; rfl, hfirst⟩

/-- No character's bytes begin those of another one. -/
theorem eq_of_utf8EncodeChar_append_eq {c d : Char} {xs ys : List UInt8}
    (h : String.utf8EncodeChar c ++ xs = String.utf8EncodeChar d ++ ys) : c = d := by
  rcases Std.lt_trichotomy c d with hlt | heq | hlt
  · exact absurd (h ▸ utf8EncodeChar_append_lt hlt xs ys) (List.lt_irrefl _)
  · exact heq
  · exact absurd (h ▸ utf8EncodeChar_append_lt hlt ys xs) (List.lt_irrefl _)

theorem encode_prefix_encode {cs ds : List Char} (h : cs <+: ds) : encode cs <+: encode ds := by
  obtain ⟨rest, rfl⟩ := h
  rw [encode_append]
  exact List.prefix_append _ _

/-- A text begins with another one if its bytes do. -/
theorem prefix_of_encode {cs ds : List Char} (h : encode cs <+: encode ds) : cs <+: ds := by
  induction cs generalizing ds with
  | nil => exact List.nil_prefix
  | cons c cs ih =>
    obtain ⟨rest, hrest⟩ := h
    cases ds with
    | nil =>
      obtain ⟨b, bs, hb, -⟩ := exists_encode_eq_cons (List.cons_ne_nil c cs)
      rw [hb] at hrest
      cases hrest
    | cons d ds =>
      rw [encode_cons, encode_cons, List.append_assoc] at hrest
      obtain rfl := eq_of_utf8EncodeChar_append_eq hrest
      exact List.cons_prefix_cons.2 ⟨rfl, ih ⟨rest, List.append_cancel_left hrest⟩⟩

/-- The bytes of a text stand among those of another one only where the text itself stands. -/
theorem exists_take_of_encode_prefix_drop {cs ds : List Char} (hcs : cs ≠ []) {n : Nat}
    (h : encode cs <+: (encode ds).drop n) :
    ∃ k, (encode (ds.take k)).length = n ∧ cs <+: ds.drop k := by
  obtain ⟨b, bs, hb, hfirst⟩ := exists_encode_eq_cons hcs
  induction ds generalizing n with
  | nil =>
    rw [encode_nil, List.drop_nil, hb] at h
    cases List.prefix_nil.1 h
  | cons d ds ih =>
    by_cases hlong : n < (String.utf8EncodeChar d).length
    · -- Only the first byte of a character is one that another can begin with.
      have hbyte : (String.utf8EncodeChar d)[n] = b := by
        obtain ⟨rest, hrest⟩ := h
        have hhead : ((encode (d :: ds)).drop n).head? = (encode (d :: ds))[n]? := List.head?_drop
        rw [← hrest, hb, encode_cons, List.getElem?_append_left hlong, List.getElem?_eq_getElem hlong] at hhead
        exact (Option.some.inj hhead).symm
      obtain rfl := (isUTF8FirstByte_getElem_utf8EncodeChar hlong).1 (hbyte ▸ hfirst)
      exact ⟨0, rfl, prefix_of_encode h⟩
    · have hdrop : (encode (d :: ds)).drop n = (encode ds).drop (n - (String.utf8EncodeChar d).length) := by
        rw [encode_cons, List.drop_append, List.drop_eq_nil_of_le (by omega), List.nil_append]
      obtain ⟨k, hk, hstands⟩ := ih (hdrop ▸ h)
      refine ⟨k + 1, ?_, hstands⟩
      rw [List.take_succ_cons, encode_cons, List.length_append, hk]
      omega

end VisualNovel.Text
