/-
  VisualNovel.Proofs.Text.Delimiter

  Cutting a text off at a delimiter. `IsCut` says which part is left: all of a text
  without the delimiter, and else what stands before its first place. There is
  exactly one such part (`IsCut.unique`), and `before` gives it (`isCut_before`).
  Where a text is cut, its bytes are cut as well (`IsCut.encode`), so it is the same
  whether characters or bytes are searched.
-/

import Mathlib.Data.List.Infix
import VisualNovel.Proofs.Text.Bytes
import VisualNovel.Text.Delimiter

namespace VisualNovel.Text

/-! ## Cuts -/

section Cuts

variable {α : Type u} {mark text part other : List α}

/--
A mark cuts a text off behind a part: the part is the whole text if the mark is not in it, and else
the mark stands right behind the part and at no earlier place.
-/
def IsCut (mark text part : List α) : Prop :=
  (part = text ∧ ¬ mark <:+: text) ∨
    (part ++ mark <+: text ∧ ∀ n < part.length, ¬ mark <+: text.drop n)

theorem prefix_drop_length (h : part ++ mark <+: text) : mark <+: text.drop part.length := by
  obtain ⟨rest, rfl⟩ := h
  rw [List.append_assoc, List.drop_left]
  exact List.prefix_append mark rest

theorem infix_of_append (h : part ++ mark <+: text) : mark <:+: text :=
  (List.suffix_append part mark).isInfix.trans h.isInfix

/-- A part that the mark stands behind is no shorter than one before which it does not stand. -/
theorem length_le_of_first (h : part ++ mark <+: text)
    (hfirst : ∀ n < other.length, ¬ mark <+: text.drop n) : other.length ≤ part.length :=
  Nat.not_lt.1 fun hlt => hfirst _ hlt (prefix_drop_length h)

/-- A text is cut at one place. -/
theorem IsCut.unique (h : IsCut mark text part) (h' : IsCut mark text other) : part = other := by
  rcases h with ⟨rfl, hnone⟩ | ⟨hstands, hfirst⟩ <;> rcases h' with ⟨rfl, hnone'⟩ | ⟨hstands', hfirst'⟩
  · rfl
  · exact absurd (infix_of_append hstands') hnone
  · exact absurd (infix_of_append hstands) hnone'
  · have hlength : part.length = other.length :=
      Nat.le_antisymm (length_le_of_first hstands' hfirst) (length_le_of_first hstands hfirst')
    have hpart : part <+: text := (List.prefix_append part mark).trans hstands
    have hother : other <+: text := (List.prefix_append other mark).trans hstands'
    exact (List.prefix_of_prefix_length_le hpart hother (Nat.le_of_eq hlength)).eq_of_length hlength

/-- A text without the mark is not cut. -/
theorem isCut_self (h : ¬ mark <:+: text) : IsCut mark text text :=
  .inl ⟨rfl, h⟩

/-- The mark is not in the part that is left. -/
theorem IsCut.not_infix (h : IsCut mark text part) (hmark : mark ≠ []) : ¬ mark <:+: part := by
  rcases h with ⟨rfl, hnone⟩ | ⟨hstands, hfirst⟩
  · exact hnone
  · -- In the part the mark would stand before the first place where it does.
    rintro ⟨front, back, hpart⟩
    have hfront : front ++ mark <+: text :=
      (hpart ▸ List.prefix_append (front ++ mark) back).trans ((List.prefix_append part mark).trans hstands)
    have hlt : front.length < part.length := by
      have hpos := List.length_pos_iff.2 hmark
      rw [← hpart, List.length_append, List.length_append]
      omega
    exact hfirst _ hlt (prefix_drop_length hfront)

/-- What follows the mark does not matter. -/
theorem IsCut.append (h : IsCut mark text part) (hmark : mark <:+: text) (more : List α) :
    IsCut mark (part ++ mark ++ more) part := by
  rcases h with ⟨-, hnone⟩ | ⟨hstands, hfirst⟩
  · exact absurd hmark hnone
  · refine .inr ⟨List.prefix_append _ more, fun n hn hbegin => hfirst n hn ?_⟩
    -- Where the mark stands before the end of the part, it ends before what follows.
    have hshort : mark <+: (part ++ mark).drop n := by
      apply List.prefix_of_prefix_length_le hbegin ((List.prefix_append _ more).drop n)
      rw [List.length_drop, List.length_append]
      omega
    exact hshort.trans (hstands.drop n)

end Cuts

/-! ## The part before a delimiter -/

theorem isCut_beforeFirst {mark : List Char} (hmark : mark ≠ []) (text : List Char) :
    IsCut mark text (beforeFirst mark text) := by
  induction text with
  | nil => exact isCut_self fun h => hmark (List.infix_nil.1 h)
  | cons c cs ih =>
    rw [beforeFirst]
    split
    · next hbegin => exact .inr ⟨List.isPrefixOf_iff_prefix.1 hbegin, fun n hn => absurd hn (Nat.not_lt_zero n)⟩
    · next hbegin =>
      -- The first place is tried here, and the later ones are those of the rest.
      have hnot : ¬ mark <+: c :: cs := fun h => hbegin (List.isPrefixOf_iff_prefix.2 h)
      rcases ih with ⟨heq, hnone⟩ | ⟨hstands, hfirst⟩
      · rw [heq]
        exact isCut_self fun h => (List.infix_cons_iff.1 h).elim hnot hnone
      · refine .inr ⟨List.cons_prefix_cons.2 ⟨rfl, hstands⟩, fun n hn => ?_⟩
        cases n with
        | zero => exact hnot
        | succ n => exact hfirst n (Nat.lt_of_succ_lt_succ hn)

theorem isCut_before {mark : List Char} (hmark : mark ≠ []) (text : List Char) :
    IsCut mark text (before mark text) := by
  rw [before, if_neg hmark]
  exact isCut_beforeFirst hmark text

/-! ## Bytes -/

/-- Where a text is cut, its bytes are cut: the mark's bytes stand nowhere but where the mark does. -/
theorem IsCut.encode {mark text part : List Char} (h : IsCut mark text part) (hmark : mark ≠ []) :
    IsCut (encode mark) (encode text) (encode part) := by
  rcases h with ⟨rfl, hnone⟩ | ⟨hstands, hfirst⟩
  · apply isCut_self
    rintro ⟨front, back, hbytes⟩
    have hdrop : Text.encode mark <+: (Text.encode part).drop front.length := by
      rw [← hbytes]
      exact prefix_drop_length (List.prefix_append _ back)
    obtain ⟨k, -, hk⟩ := exists_take_of_encode_prefix_drop hmark hdrop
    exact hnone (hk.isInfix.trans (List.drop_suffix k part).isInfix)
  · refine .inr ⟨?_, fun n hn hbegin => ?_⟩
    · rw [← encode_append]
      exact encode_prefix_encode hstands
    · obtain ⟨k, hk, hmarkAt⟩ := exists_take_of_encode_prefix_drop hmark hbegin
      -- Before the byte `n` there are fewer bytes than the part has, so fewer characters as well.
      have hlt : k < part.length := by
        by_contra hge
        have hpart : part <+: text.take k :=
          List.prefix_take_iff.2 ⟨(List.prefix_append part mark).trans hstands, Nat.not_lt.1 hge⟩
        have hlength := (encode_prefix_encode hpart).length_le
        omega
      exact hfirst k hlt hmarkAt

end VisualNovel.Text
