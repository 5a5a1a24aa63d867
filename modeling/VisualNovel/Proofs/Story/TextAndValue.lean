/-
  VisualNovel.Proofs.Story.TextAndValue

  A story can be read from a text or from the value of that text. The two readings agree
  (`text_agrees_with_value`): what the text leads to the value leads to, and the text is
  refused for one reason more only, which is that the story, a passage or a link repeats
  one of its fields. A value has forgotten such a repetition, and shows the last.
-/

import VisualNovel.Proofs.Json.Rereading
import VisualNovel.Proofs.Json.Spelling
import VisualNovel.Proofs.Story.Respelling

namespace VisualNovel

open Json (Document MindsOnly noFlaw flawOf)

namespace Twison

/-! ## Repetitions -/

/-- A link repeats one of its fields. -/
def RepeatsInLink (l : Document) : Prop :=
  l.Repeats linkMembers

/-- A passage or one of its links repeats one of its fields. -/
def RepeatsInPassage (p : Document) : Prop :=
  p.Repeats passageMembers ∨ ∃ links ∈ p.field? "links" 4, ∃ l ∈ links.items, RepeatsInLink l

/-- A story, one of its passages or one of their links repeats one of its fields. -/
def RepeatsInStory (d : Document) : Prop :=
  d.Repeats storyMembers ∨ ∃ passages ∈ d.field? "passages" 2, ∃ p ∈ passages.items, RepeatsInPassage p

/-! ## Readers mind repetitions only -/

theorem mindsOnly_readId : MindsOnly noFlaw readId := by
  apply Json.mindsOnly_untagged
  intro r hr
  simp only [List.mem_cons, List.not_mem_nil, or_false] at hr
  rcases hr with rfl | rfl
  · exact Json.mindsOnly_word.map _
  · exact Json.mindsOnly_text.map _

theorem mindsOnly_readLink : MindsOnly RepeatsInLink readLink := by
  rw [readLink]
  refine (Json.mindsOnly_record (fun _ => noFlaw) (by decide) ?fields).congr ?flaws
  case fields => exact ⟨Json.mindsOnly_text, Json.mindsOnly_text, mindsOnly_readId, trivial⟩
  case flaws =>
    intro d
    simp [RepeatsInLink, Json.FieldFlaw, noFlaw, linkMembers]

theorem mindsOnly_readPassage : MindsOnly RepeatsInPassage readPassage := by
  rw [readPassage]
  refine (Json.mindsOnly_record (flawOf "links" fun links => ∃ l ∈ links.items, RepeatsInLink l)
    (by decide) ?fields).congr ?flaws
  case fields =>
    have htext : MindsOnly noFlaw Json.text := Json.mindsOnly_text
    have htags : MindsOnly noFlaw (Json.list Json.text) := Json.mindsOnly_list_of_noFlaw htext
    exact ⟨mindsOnly_readId.flawOf_other (by decide) _, htext.flawOf_other (by decide) _,
      htext.flawOf_other (by decide) _, htags.flawOf_other (by decide) _,
      (Json.mindsOnly_list mindsOnly_readLink).flawOf_self _, trivial⟩
  case flaws =>
    intro d
    simp [RepeatsInPassage, Json.FieldFlaw, flawOf, passageMembers]

theorem mindsOnly_readDraft : MindsOnly RepeatsInStory readDraft := by
  rw [readDraft]
  refine (Json.mindsOnly_record (flawOf "passages" fun passages => ∃ p ∈ passages.items, RepeatsInPassage p)
    (by decide) ?fields).congr ?flaws
  case fields =>
    have halt : MindsOnly noFlaw (Json.option readId) := Json.mindsOnly_option mindsOnly_readId
    exact ⟨mindsOnly_readId.flawOf_other (by decide) _, halt.flawOf_other (by decide) _,
      (Json.mindsOnly_list mindsOnly_readPassage).flawOf_self _, trivial⟩
  case flaws =>
    intro d
    simp [RepeatsInStory, Json.FieldFlaw, flawOf, storyMembers]

end Twison

namespace Story

open Twison (RepeatsInStory readDraft)

variable {text : String} {d : Document} {j : Json} {s : Story}

theorem ofText_eq_ok_iff (htext : Document.ofText text.toList = (d, none)) :
    ofText text = .ok s ↔ ∃ draft, readDraft Json.maximalRoom d = .ok draft ∧ draft.build = .ok s := by
  rw [ofText, Json.readText_eq htext]
  cases readDraft Json.maximalRoom d <;> simp

theorem ofJson_eq_ok_iff :
    ofJson j = .ok s ↔ ∃ draft, readDraft Json.maximalRoom j.toDocument = .ok draft ∧ draft.build = .ok s := by
  rw [ofJson]
  cases readDraft Json.maximalRoom j.toDocument <;> simp

/-- A text leads to what its value leads to, if nothing repeats a field. -/
theorem ofText_eq_ok_iff_ofJson (htext : Document.ofText text.toList = (d, none))
    (hvalue : Json.value Json.maximalRoom d = .ok j) :
    ofText text = .ok s ↔ ofJson j = .ok s ∧ ¬ RepeatsInStory d := by
  have hread : ∀ draft, readDraft Json.maximalRoom d = .ok draft ↔
      readDraft Json.maximalRoom j.toDocument = .ok draft ∧ ¬ RepeatsInStory d :=
    Twison.mindsOnly_readDraft ⟨j, hvalue, rfl⟩
  rw [ofText_eq_ok_iff htext, ofJson_eq_ok_iff, ← exists_and_right]
  refine exists_congr fun draft => ?_
  rw [hread, and_right_comm]

/--
**A text and its value lead to the same story.** Take a text that has a value. The story that the
text leads to is the one that the value leads to; and if the value leads to a story, the text fails
to do so just when the story, a passage or a link repeats one of its fields.
-/
theorem text_agrees_with_value (h : Json.readText Json.value text = .ok j) :
    (∀ s, ofText text = .ok s → ofJson j = .ok s) ∧
    ∀ s, ofJson j = .ok s →
      ((∃ e, ofText text = .error e) ↔ RepeatsInStory (Document.ofText text.toList).1) := by
  obtain ⟨d, htext, hvalue⟩ := Json.readText_eq_ok_iff.1 h
  have hagree : ∀ s, ofText text = .ok s ↔ ofJson j = .ok s ∧ ¬ RepeatsInStory d :=
    fun s => ofText_eq_ok_iff_ofJson htext hvalue
  rw [htext]
  refine ⟨fun s hs => ((hagree s).1 hs).1, fun s hs => ⟨?_, ?_⟩⟩
  · rintro ⟨e, he⟩
    by_contra hrepeats
    rw [(hagree s).2 ⟨hs, hrepeats⟩] at he
    cases he
  · intro hrepeats
    cases hread : ofText text with
    | error e => exact ⟨e, rfl⟩
    | ok s' => exact absurd hrepeats ((hagree s').1 hread).2

/-- A hall with a link to itself, whose target is given twice. -/
def echo : Json :=
  .object [("startnode", .natural 1), ("passages", .array [
    .object [("pid", .natural 1), ("name", .string "Hall"), ("links", .array [
      .object [("name", .string "Stay"), ("link", .string "Hall"), ("pid", .natural 2), ("pid", .natural 1)]])]])]

/-- The value of the hall, in which the last target counts. -/
def echoValue : Json :=
  .object [("passages", .array [
    .object [("links", .array [
      .object [("link", .string "Hall"), ("name", .string "Stay"), ("pid", .natural 1)]]),
      ("name", .string "Hall"), ("pid", .natural 1)]]), ("startnode", .natural 1)]

/-- The value of the hall leads to a story, and its text is refused. -/
theorem text_agrees_with_value_echo :
    let text := String.ofList (Json.compact echo)
    Json.readText Json.value text = .ok echoValue ∧
    (ofJson echoValue).toOption.map (fun story => story.passages.map (·.name)) = some ["Hall"] ∧
    RepeatsInStory (Document.ofText text.toList).1 ∧ ∃ e, ofText text = .error e := by
  intro text
  have htext : Document.ofText text.toList = (echo.toDocument, none) := by
    rw [String.toList_ofList]
    apply Json.ofText_compact
    simp only [echo, Json.IsPlain, Json.ArePlain, Json.HavePlain, and_true, true_and]
    decide
  have hvalue : Json.readText Json.value text = .ok echoValue := by
    rw [Json.readText_eq htext]
    rfl
  have hread : (ofJson echoValue).toOption.map (fun story => story.passages.map (·.name)) = some ["Hall"] := by
    decide +kernel
  have hrepeats : RepeatsInStory (Document.ofText text.toList).1 := by
    rw [htext]
    refine .inr ⟨_, rfl, _, List.mem_singleton_self _, .inr ⟨_, rfl, _, List.mem_singleton_self _, ?_⟩⟩
    refine ⟨_, _, rfl, "pid", by decide, .number (.natural 2), .number (.natural 1), ?_⟩
    exact .cons _ (.cons _ (.refl _))
  refine ⟨hvalue, hread, hrepeats, ?_⟩
  obtain ⟨s, hs⟩ : ∃ s, ofJson echoValue = .ok s := by
    cases hs : ofJson echoValue with
    | ok s => exact ⟨s, rfl⟩
    | error e =>
      rw [hs] at hread
      cases hread
  exact ((text_agrees_with_value hvalue).2 s hs).2 hrepeats

end Story

end VisualNovel
