/-
  VisualNovel.Proofs.Stage.Watched

  What is asked of a presentation. A presentation can be watched by someone who
  takes notes of all that is asked, refused transitions included (`Watched`); it
  answers as it does unwatched. Two presentations answer alike when they refuse
  the same transitions after they were asked the same (`AnswerAlike`), which those
  do that refuse by kind and ordinal (`AnswersBy.answerAlike`).
-/

import VisualNovel.Stage.Recorder

namespace VisualNovel

variable {σ σ₁ σ₂ γ : Type}

/-! ## Watching -/

/-- A presentation that is watched. -/
structure Watched (σ γ : Type) where
  inner : σ
  /-- How the notes go on when something is asked. -/
  note : γ → Directive → γ
  notes : γ

namespace Watched

variable [Presenter σ]

/-- Shows something, and it is noted. -/
def display (w : Watched σ γ) (d : Display) : Watched σ γ :=
  { w with inner := Presenter.display w.inner d, notes := w.note w.notes (.display d) }

/-- Passes a transition on; it is noted whatever the answer. -/
def perform (w : Watched σ γ) (t : Transition) : Except PresentationError Unit × Watched σ γ :=
  let (result, inner) := Presenter.perform w.inner t
  (result, { w with inner, notes := w.note w.notes (.transition t) })

instance : Presenter (Watched σ γ) := ⟨display, perform⟩

/-- Everything is noted, in order. -/
def jot (notes : List Directive) (d : Directive) : List Directive :=
  notes ++ [d]

end Watched

/-! ## Answering alike -/

/-- What is asked, without how many endings were reached. -/
def Directive.hideReached : Directive → Directive
  | .display (.endingsProgress _ total) => .display (.endingsProgress 0 total)
  | d => d

theorem Directive.hideReached_eq_transition {d : Directive} {t : Transition} :
    d.hideReached = .transition t ↔ d = .transition t := by
  cases d with
  | transition u => rfl
  | display d => cases d <;> simp [hideReached]

theorem Directive.count_map_hideReached (ds : List Directive) (t : Transition) :
    (ds.map hideReached).count (.transition t) = ds.count (.transition t) := by
  rw [List.count_eq_countP, List.count_eq_countP, List.countP_map]
  apply List.countP_congr
  intro d _
  simp only [Function.comp_apply, beq_iff_eq, hideReached_eq_transition]

namespace Presenter

variable [Presenter σ] [Presenter σ₁] [Presenter σ₂]

/-- The presentation after something was asked of it, whatever it answered. -/
def ask (p : σ) : Directive → σ
  | .display d => Presenter.display p d
  | .transition t => (Presenter.perform p t).2

theorem ask_watched (w : Watched σ γ) (d : Directive) :
    ask w d = { w with inner := ask w.inner d, notes := w.note w.notes d } := by
  cases d with
  | display d => rfl
  | transition t => rfl

/--
Both presentations give the same answer to a transition, provided that what they were asked before
looks the same.
-/
def AnswerAlike (view : Directive → Directive) (p : σ₁) (q : σ₂) : Prop :=
  ∀ (ds es : List Directive) (t : Transition), ds.map view = es.map view →
    (Presenter.perform (ds.foldl ask p) t).1 = (Presenter.perform (es.foldl ask q) t).1

variable {view : Directive → Directive} {p : σ₁} {q : σ₂}

/-- What looks the same to either leaves them alike. -/
theorem AnswerAlike.ask (h : AnswerAlike view p q) {d e : Directive} (hde : view d = view e) :
    AnswerAlike view (ask p d) (ask q e) := by
  intro ds es t hview
  apply h (d :: ds) (e :: es) t
  rw [List.map_cons, List.map_cons, hde, hview]

/-- If they answer alike although some is hidden, they do so when they are asked the very same. -/
theorem AnswerAlike.same (h : AnswerAlike view p q) : AnswerAlike id p q := by
  intro ds es t hsame
  rw [List.map_id, List.map_id] at hsame
  rw [hsame]
  exact h es es t rfl

/-- The presentation answers a transition by how often it was asked for that transition before. -/
def AnswersBy (answer : Transition → Nat → Except PresentationError Unit) (p : σ) : Prop :=
  ∀ (ds : List Directive) (t : Transition),
    (Presenter.perform (ds.foldl ask p) t).1 = answer t (ds.count (.transition t))

/-- Those that refuse the same transitions, by kind and ordinal, answer alike. -/
theorem AnswersBy.answerAlike {answer : Transition → Nat → Except PresentationError Unit}
    (hp : AnswersBy answer p) (hq : AnswersBy answer q) : AnswerAlike Directive.hideReached p q := by
  intro ds es t hview
  rw [hp ds t, hq es t, ← Directive.count_map_hideReached ds,
    ← Directive.count_map_hideReached es, hview]

end Presenter

namespace Recorder

/-- The answer to a transition that was asked for so many times before. -/
def answer (refusal : Transition → Nat → Option String) (t : Transition) (before : Nat) :
    Except PresentationError Unit :=
  match refusal t (before + 1) with
  | some reason => .error ⟨reason⟩
  | none => .ok ()

theorem refusal_record (r : Recorder) (d : Directive) : (r.record d).refusal = r.refusal := by
  rw [record]
  split <;> rfl

theorem attempts_record (r : Recorder) (d : Directive) : (r.record d).attempts = r.attempts := by
  rw [record]
  split <;> rfl

theorem refusal_ask (r : Recorder) (d : Directive) : (Presenter.ask r d).refusal = r.refusal := by
  cases d with
  | display d => exact r.refusal_record _
  | transition t =>
    show (r.perform t).2.refusal = r.refusal
    simp only [perform]
    split
    · rfl
    · exact refusal_record ..

/-- Every transition that is asked for counts as an attempt, also when it is refused. -/
theorem count_attempts_ask (r : Recorder) (d : Directive) (t : Transition) :
    (Presenter.ask r d).attempts.count t =
      r.attempts.count t + if d == .transition t then 1 else 0 := by
  cases d with
  | display d =>
    have hattempts : (Presenter.ask r (.display d)).attempts = r.attempts := r.attempts_record _
    rw [hattempts]
    rfl
  | transition u =>
    have hattempts : (Presenter.ask r (.transition u)).attempts = u :: r.attempts := by
      show (r.perform u).2.attempts = u :: r.attempts
      simp only [perform]
      split
      · rfl
      · exact attempts_record ..
    rw [hattempts]
    simp [List.count_cons]

theorem perform_foldl_ask (r : Recorder) (ds : List Directive) (t : Transition) :
    (Presenter.perform (ds.foldl Presenter.ask r) t).1 =
      answer r.refusal t (r.attempts.count t + ds.count (.transition t)) := by
  induction ds generalizing r with
  | nil =>
    show (r.perform t).1 = answer r.refusal t (r.attempts.count t)
    simp only [perform, answer, List.count_cons_self]
    cases r.refusal t (r.attempts.count t + 1) with
    | none => rfl
    | some reason => rfl
  | cons d ds ih =>
    rw [List.foldl_cons, ih, refusal_ask, count_attempts_ask, List.count_cons, Nat.add_right_comm,
      Nat.add_assoc]

/-- **A recorder refuses by kind and ordinal**, from its first directive on. -/
theorem answersBy_of_fresh {r : Recorder} (h : r.attempts = []) :
    Presenter.AnswersBy (answer r.refusal) r := by
  intro ds t
  rw [perform_foldl_ask, h, List.count_nil, Nat.zero_add]

end Recorder

end VisualNovel
