import CriticalCss.Dialogue.Basic

/-!
# Courses of a dialogue

Which questions a dialogue asks depends on the answers that it gets. A course is one way through
the tree: the questions with their answers, and the value in the end (`Dialogue.Course`). What is
shown of all courses holds whoever answers: every run takes a course, and what the answers keep
holds at its end (`exists_course_run`). The course of a sequence of two dialogues is the course of
the first one followed by a course of the second (`course_bind_iff`).
-/

namespace CriticalCss

namespace Dialogue

/-- A question with the answer that it got. -/
structure Exchange (Q : Type) (A : Q → Type) where
  question : Q
  answer : A question

variable {Q : Type} {A : Q → Type} {α β σ : Type}

/-- The dialogue asks the questions of `t`, is answered as `t` says, and ends with the value. -/
inductive Course : Dialogue Q A α → List (Exchange Q A) → α → Prop
  | done (value : α) : Course (done value) [] value
  | ask {q : Q} {next : A q → Dialogue Q A α} {answer : A q} {t : List (Exchange Q A)}
    {value : α} : Course (next answer) t value → Course (ask q next) (⟨q, answer⟩ :: t) value

variable {t : List (Exchange Q A)}

@[simp]
theorem course_done_iff {a value : α} :
    (done a : Dialogue Q A α).Course t value ↔ t = [] ∧ value = a := by
  constructor
  · rintro ⟨⟩
    exact ⟨rfl, rfl⟩
  · rintro ⟨rfl, rfl⟩
    exact .done value

@[simp]
theorem course_pure_iff {a value : α} :
    (pure a : Dialogue Q A α).Course t value ↔ t = [] ∧ value = a :=
  course_done_iff

theorem course_ask_iff {q : Q} {next : A q → Dialogue Q A α} {value : α} :
    (ask q next).Course t value ↔
      ∃ answer rest, t = ⟨q, answer⟩ :: rest ∧ (next answer).Course rest value := by
  constructor
  · rintro (_ | course)
    exact ⟨_, _, rfl, course⟩
  · rintro ⟨answer, rest, rfl, course⟩
    exact .ask course

@[simp]
theorem course_query_iff {q : Q} {value : A q} :
    (query q : Dialogue Q A (A q)).Course t value ↔ t = [⟨q, value⟩] := by
  simp only [query, course_ask_iff, course_done_iff]
  constructor
  · rintro ⟨answer, rest, rfl, rfl, rfl⟩
    rfl
  · rintro rfl
    exact ⟨value, [], rfl, rfl, rfl⟩

/-- One dialogue after the other takes the course of the first and then one of the second. -/
theorem course_bind_iff {x : Dialogue Q A α} {f : α → Dialogue Q A β} {value : β} :
    (x >>= f).Course t value ↔
      ∃ first a rest, t = first ++ rest ∧ x.Course first a ∧ (f a).Course rest value := by
  change (x.bind f).Course t value ↔ _
  induction x generalizing t with
  | done a =>
    constructor
    · exact fun course => ⟨[], a, t, rfl, .done a, course⟩
    · rintro ⟨first, a, rest, rfl, ⟨⟩, course⟩
      exact course
  | ask q next ih =>
    constructor
    · rintro (_ | course)
      obtain ⟨first, a, rest, rfl, own, later⟩ := (ih _).1 course
      exact ⟨_ :: first, a, rest, rfl, .ask own, later⟩
    · rintro ⟨_, a, rest, rfl, _ | own, later⟩
      exact .ask ((ih _).2 ⟨_, a, rest, rfl, own, later⟩)

theorem Course.bind {x : Dialogue Q A α} {f : α → Dialogue Q A β} {first rest : List (Exchange Q A)}
    {a : α} {value : β} (own : x.Course first a) (later : (f a).Course rest value) :
    (x >>= f).Course (first ++ rest) value :=
  course_bind_iff.2 ⟨first, a, rest, rfl, own, later⟩

/-- Whoever answers, a dialogue takes one of its courses. What holds of the exchanges so far and of
the state behind them, and is kept by every answer, holds in the end. -/
theorem exists_course_run (respond : (q : Q) → σ → A q × σ)
    (holds : List (Exchange Q A) → σ → Prop)
    (kept : ∀ t s q, holds t s → holds (t ++ [⟨q, (respond q s).1⟩]) (respond q s).2)
    (x : Dialogue Q A α) {before : List (Exchange Q A)} {s : σ} (early : holds before s) :
    ∃ t, x.Course t (x.run respond s).1 ∧ holds (before ++ t) (x.run respond s).2 := by
  induction x generalizing before s with
  | done a => exact ⟨[], .done a, by rwa [List.append_nil]⟩
  | ask q next ih =>
    obtain ⟨t, course, late⟩ := ih (respond q s).1 (kept before s q early)
    rw [List.append_assoc] at late
    exact ⟨_ :: t, .ask course, late⟩

end Dialogue

end CriticalCss
