/-
  VisualNovel.Proofs.Story.Prompt

  What is shown of a passage's text. The prompt is the one part at which a
  delimiter cuts the text off (`eq_prompt_iff`), in characters and in bytes.
-/

import VisualNovel.Proofs.Text.Delimiter
import VisualNovel.Story.Passage

namespace VisualNovel

namespace Passage

open Text (IsCut)

theorem toList_prompt (p : Passage) (delimiter : String) :
    (p.prompt delimiter).toList = Text.before delimiter.toList p.text.toList :=
  String.toList_ofList

theorem isCut_prompt (p : Passage) {delimiter : String} (h : delimiter ≠ "") :
    IsCut delimiter.toList p.text.toList (p.prompt delimiter).toList := by
  rw [toList_prompt]
  exact Text.isCut_before (mt String.toList_eq_nil_iff.1 h) _

/-- The prompt is the one part at which the delimiter cuts the text off. -/
theorem eq_prompt_iff (p : Passage) {delimiter part : String} (h : delimiter ≠ "") :
    part = p.prompt delimiter ↔ IsCut delimiter.toList p.text.toList part.toList := by
  constructor
  · rintro rfl
    exact p.isCut_prompt h
  · intro hcut
    exact String.toList_inj.1 (hcut.unique (p.isCut_prompt h))

/--
**A prompt is the text up to the first delimiter.** It is the one part of the text that is the whole
if the delimiter is not in it, and else has the delimiter right behind it and at no earlier place,
whether places are counted in characters or in bytes. So the delimiter is not in the prompt, the
prompt of a prompt is itself, and it stays the same whatever is put behind the first delimiter. An
empty delimiter leaves the whole text.
-/
theorem prompt_cuts (p : Passage) :
    p.prompt "" = p.text ∧
    ∀ delimiter : String, delimiter ≠ "" →
      (∀ part, part = p.prompt delimiter ↔ IsCut delimiter.toList p.text.toList part.toList) ∧
      IsCut delimiter.toUTF8.data.toList p.text.toUTF8.data.toList (p.prompt delimiter).toUTF8.data.toList ∧
      ¬ delimiter.toList <:+: (p.prompt delimiter).toList ∧
      { p with text := p.prompt delimiter }.prompt delimiter = p.prompt delimiter ∧
      (delimiter.toList <:+: p.text.toList → ∀ more,
        { p with text := p.prompt delimiter ++ delimiter ++ more }.prompt delimiter = p.prompt delimiter) := by
  refine ⟨String.ofList_toList, fun delimiter h => ?_⟩
  have hne : delimiter.toList ≠ [] := mt String.toList_eq_nil_iff.1 h
  have hcut := p.isCut_prompt h
  refine ⟨fun part => p.eq_prompt_iff h, ?_, hcut.not_infix hne, ?_, fun hmark more => ?_⟩
  · rw [← Text.encode_toList, ← Text.encode_toList, ← Text.encode_toList]
    exact hcut.encode hne
  · apply Eq.symm
    exact (eq_prompt_iff _ h).2 (Text.isCut_self (hcut.not_infix hne))
  · apply Eq.symm
    rw [eq_prompt_iff _ h, String.toList_append, String.toList_append]
    exact hcut.append hmark more.toList

/-- Of three marks in a row the first two are the delimiter, whatever comes after them. -/
theorem prompt_cuts_quotes :
    let p : Passage := ⟨1, "Fork", "Où ««« là?", .empty, []⟩
    ("««" ≠ "" ∧ "««".toList <:+: p.text.toList) ∧ p.prompt "««" = "Où " ∧
      IsCut "««".toUTF8.data.toList p.text.toUTF8.data.toList "Où ".toUTF8.data.toList ∧
      ∀ more, { p with text := "Où " ++ "««" ++ more }.prompt "««" = "Où " := by
  intro p
  have hne : "««" ≠ "" := by decide
  have hmark : "««".toList <:+: p.text.toList := ⟨"Où ".toList, "« là?".toList, by decide⟩
  have hprompt : p.prompt "««" = "Où " := by decide
  obtain ⟨-, hcuts⟩ := prompt_cuts p
  obtain ⟨-, hbytes, -, -, hmore⟩ := hcuts "««" hne
  rw [hprompt] at hbytes hmore
  exact ⟨⟨hne, hmark⟩, hprompt, hbytes, hmore hmark⟩

end Passage

end VisualNovel
