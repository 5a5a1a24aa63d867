/-
  VisualNovel.Text.Lines

  Splitting a text into lines. A line ends at a line feed; one carriage return
  right before the line feed belongs to the ending. Text after the last line
  feed is a line of its own, and a final line feed opens no further line.
-/

namespace VisualNovel.Text

/-- The lines of a text, without their endings. -/
def lines : List Char → List (List Char)
  | [] => []
  | '\r' :: '\n' :: cs => [] :: lines cs
  | '\n' :: cs => [] :: lines cs
  | c :: cs =>
    match lines cs with
    | [] => [[c]]
    | l :: ls => (c :: l) :: ls

/-- The pieces of a list between the elements that satisfy `isEnd`; always at least one piece. -/
def splitOn {α : Type _} (isEnd : α → Bool) : List α → List (List α)
  | [] => [[]]
  | a :: as =>
    match splitOn isEnd as with
    | [] => [[a]]
    | p :: ps => if isEnd a then [] :: p :: ps else (a :: p) :: ps

@[simp] theorem splitOn_nil {α : Type _} (isEnd : α → Bool) : splitOn isEnd [] = [[]] := rfl

theorem splitOn_ne_nil {α : Type _} (isEnd : α → Bool) (as : List α) : splitOn isEnd as ≠ [] := by
  cases as with
  | nil => simp
  | cons a as =>
    simp only [splitOn]
    split
    · simp
    · split <;> simp

/-- A list without an end is one piece. -/
theorem splitOn_of_forall {α : Type _} {isEnd : α → Bool} {as : List α}
    (h : ∀ a ∈ as, isEnd a = false) : splitOn isEnd as = [as] := by
  induction as with
  | nil => rfl
  | cons a as ih =>
    obtain ⟨ha, has⟩ := List.forall_mem_cons.1 h
    simp [splitOn, ih has, ha]

/-- An end parts the pieces before it from those behind it. -/
theorem splitOn_append_cons {α : Type _} {isEnd : α → Bool} {a : α} (h : isEnd a = true)
    (as bs : List α) : splitOn isEnd (as ++ a :: bs) = splitOn isEnd as ++ splitOn isEnd bs := by
  induction as with
  | nil =>
    obtain ⟨p, ps, hbs⟩ := List.exists_cons_of_ne_nil (splitOn_ne_nil isEnd bs)
    simp [splitOn, hbs, h]
  | cons b as ih =>
    obtain ⟨p, ps, has⟩ := List.exists_cons_of_ne_nil (splitOn_ne_nil isEnd as)
    simp only [List.cons_append, splitOn, ih, has]
    split <;> rfl

end VisualNovel.Text
