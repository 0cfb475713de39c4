import CriticalCss.Browser.Page
import CriticalCss.Proofs.Dialogue.Course

/-!
# Courses of actions

An action is a dialogue with a browser that ends with a value or an error. Each way of putting
actions together has one lemma that says what its courses are, so that the course of a long action
can be taken apart step by step, each step failing or not.
-/

namespace CriticalCss

open Dialogue

/-- A call with its answer. -/
abbrev Event : Type :=
  Exchange BrowserCall BrowserCall.Answer

/-! ## Retrying -/

section Retry

variable {Q : Type} {A : Q → Type} {ε α : Type} {mayPass : ε → Bool} {pause : Dialogue Q A Unit}
  {operation : Dialogue Q A (Except ε α)} {attempts : Nat} {t : List (Exchange Q A)}
  {outcome : Except ε α}

/-- There is no point in trying again: the operation succeeded, or failed in a way that does not
pass. -/
def Retry.isFinal (mayPass : ε → Bool) : Except ε α → Bool
  | .ok _ => true
  | .error e => !mayPass e

open Retry

/-- The first of several attempts is the only one if its outcome is final. Otherwise there is a
pause behind it, and one attempt less. -/
theorem course_retry_succ_iff :
    (retry mayPass pause operation (attempts + 2)).Course t outcome ↔
      operation.Course t outcome ∧ isFinal mayPass outcome = true ∨
        ∃ first tried pausing rest, t = first ++ (pausing ++ rest) ∧
          operation.Course first tried ∧ isFinal mayPass tried = false ∧
          pause.Course pausing () ∧
          (retry mayPass pause operation (attempts + 1)).Course rest outcome := by
  rw [retry, course_bind_iff]
  constructor
  · rintro ⟨first, tried, rest, rfl, own, later⟩
    cases final : isFinal mayPass tried with
    | true =>
      have ended : rest = [] ∧ outcome = tried := by
        cases tried with
        | ok a => exact course_pure_iff.1 later
        | error e =>
          rw [isFinal, Bool.not_eq_true'] at final
          simp only [final] at later
          exact course_pure_iff.1 later
      rcases ended with ⟨rfl, rfl⟩
      exact .inl ⟨(List.append_nil first).symm ▸ own, final⟩
    | false =>
      cases tried with
      | ok a => cases final
      | error e =>
        rw [isFinal, Bool.not_eq_false'] at final
        simp only [final] at later
        rcases course_bind_iff.1 later with ⟨pausing, _, rest, rfl, waiting, later⟩
        refine .inr ⟨first, _, pausing, rest, rfl, own, ?_, waiting, later⟩
        rw [isFinal, final]
        rfl
  · rintro (⟨own, final⟩ | ⟨first, tried, pausing, rest, rfl, own, again, waiting, later⟩)
    · refine ⟨t, outcome, [], (List.append_nil t).symm, own, ?_⟩
      cases outcome with
      | ok a => exact .done _
      | error e =>
        rw [isFinal, Bool.not_eq_true'] at final
        simp only [final]
        exact .done _
    · refine ⟨first, tried, _, rfl, own, ?_⟩
      cases tried with
      | ok a => cases again
      | error e =>
        rw [isFinal, Bool.not_eq_false'] at again
        simp only [again]
        exact waiting.bind later

/-- What holds of a single attempt, and of a failed attempt with a pause and more attempts behind
it, holds of all. -/
theorem course_retry {P : List (Exchange Q A) → Except ε α → Prop}
    (once : ∀ {t outcome}, operation.Course t outcome → P t outcome)
    (again : ∀ {first e pausing rest outcome}, operation.Course first (.error e) →
      pause.Course pausing () → P rest outcome → P (first ++ (pausing ++ rest)) outcome)
    (course : (retry mayPass pause operation attempts).Course t outcome) : P t outcome := by
  induction attempts using retry.induct generalizing t with
  | case1 | case2 => exact once course
  | case3 attempts ih =>
    rcases course_retry_succ_iff.1 course with
      ⟨own, -⟩ | ⟨first, tried, pausing, rest, rfl, own, failed, waiting, later⟩
    · exact once own
    · cases tried with
      | ok a => cases failed
      | error e => exact again own waiting (ih later)

end Retry

/-! ## Actions -/

namespace Action

variable {ε ε' α β : Type} {x : Action ε α} {t : List Event}

theorem course_pure_iff {a : α} {outcome : Except ε α} :
    (pure a : Action ε α).run.Course t outcome ↔ t = [] ∧ outcome = .ok a :=
  Dialogue.course_pure_iff

theorem course_throw_iff {e : ε} {outcome : Except ε α} :
    (throw e : Action ε α).run.Course t outcome ↔ t = [] ∧ outcome = .error e :=
  Dialogue.course_pure_iff

theorem course_bind_iff {f : α → Action ε β} {outcome : Except ε β} :
    (x >>= f).run.Course t outcome ↔
      (∃ e, x.run.Course t (.error e) ∧ outcome = .error e) ∨
        ∃ first a rest, t = first ++ rest ∧ x.run.Course first (.ok a) ∧
          (f a).run.Course rest outcome := by
  rw [ExceptT.run_bind, Dialogue.course_bind_iff]
  constructor
  · rintro ⟨first, e | a, rest, rfl, own, later⟩
    · obtain ⟨rfl, rfl⟩ := Dialogue.course_pure_iff.1 later
      exact .inl ⟨e, (List.append_nil first).symm ▸ own, rfl⟩
    · exact .inr ⟨first, a, rest, rfl, own, later⟩
  · rintro (⟨e, own, rfl⟩ | ⟨first, a, rest, rfl, own, later⟩)
    · exact ⟨t, .error e, [], (List.append_nil t).symm, own, .done _⟩
    · exact ⟨first, .ok a, rest, rfl, own, later⟩

theorem course_make_iff {c : BrowserCall} {answer : c.Answer} :
    c.make.run.Course t answer ↔ t = [⟨c, answer⟩] :=
  course_query_iff

theorem course_rephrase_iff {f : ε → ε'} {outcome : Except ε' α} :
    (x.rephrase f).run.Course t outcome ↔
      ∃ own, x.run.Course t own ∧ outcome = own.mapError f := by
  change ((Except.mapError f) <$> x.run).Course t outcome ↔ _
  rw [map_eq_pure_bind, Dialogue.course_bind_iff]
  constructor
  · rintro ⟨first, own, rest, rfl, course, later⟩
    obtain ⟨rfl, rfl⟩ := Dialogue.course_pure_iff.1 later
    exact ⟨own, (List.append_nil first).symm ▸ course, rfl⟩
  · rintro ⟨own, course, rfl⟩
    exact ⟨t, own, [], (List.append_nil t).symm, course, .done _⟩

theorem course_tryCatch_iff {f : ε → Action ε α} {outcome : Except ε α} :
    (tryCatch x f : Action ε α).run.Course t outcome ↔
      (∃ a, x.run.Course t (.ok a) ∧ outcome = .ok a) ∨
        ∃ first e rest, t = first ++ rest ∧ x.run.Course first (.error e) ∧
          (f e).run.Course rest outcome := by
  change (x.run >>= _).Course t outcome ↔ _
  rw [Dialogue.course_bind_iff]
  constructor
  · rintro ⟨first, e | a, rest, rfl, own, later⟩
    · exact .inr ⟨first, e, rest, rfl, own, later⟩
    · obtain ⟨rfl, rfl⟩ := Dialogue.course_pure_iff.1 later
      exact .inl ⟨a, (List.append_nil first).symm ▸ own, rfl⟩
  · rintro (⟨a, own, rfl⟩ | ⟨first, e, rest, rfl, own, later⟩)
    · exact ⟨t, .ok a, [], (List.append_nil t).symm, own, .done _⟩
    · exact ⟨first, .error e, rest, rfl, own, later⟩

/-- The cleanup comes after the body however that ends, and its own failure counts more. -/
theorem course_ending_iff {cleanup : Action ε Unit} {outcome : Except ε α} :
    (ending cleanup x).run.Course t outcome ↔
      ∃ first own rest ended, t = first ++ rest ∧ x.run.Course first own ∧
        cleanup.run.Course rest ended ∧ outcome = ended.bind fun _ => own := by
  change (x.run >>= fun own => cleanup.run >>= _).Course t outcome ↔ _
  simp only [Dialogue.course_bind_iff]
  constructor
  · rintro ⟨first, own, _, rfl, course, rest, e | ⟨⟩, _, rfl, cleaning, later⟩
    all_goals
      obtain ⟨rfl, rfl⟩ := Dialogue.course_pure_iff.1 later
      exact ⟨first, _, rest, _, by rw [List.append_nil], course, cleaning, rfl⟩
  · rintro ⟨first, own, rest, ended, rfl, course, cleaning, rfl⟩
    refine ⟨first, own, rest, rfl, course, rest, ended, [], (List.append_nil rest).symm, cleaning,
      ?_⟩
    cases ended <;> exact .done _

end Action

/-! ## Faults -/

/-- The fault of a call, if what it fails with is one. -/
def BrowserCall.fault? : (c : BrowserCall) → c.Failure → Option Fault
  | .fileText _, _ => none
  | .start, fault | .launch _ _, fault | .newContext _, fault | .newPage _, fault
  | .openDevtools _, fault | .disableCache _, fault | .intercept _ _, fault | .goto _ _ _, fault
  | .setContent _ _ _, fault | .stopLoading _ _, fault | .awaitIdle _ _, fault
  | .delay _ _, fault | .screenshot _ _, fault | .probe _ _, fault | .liveCss _, fault
  | .closeContext _, fault | .closeBrowser, fault | .stop, fault => some fault

/-- The call is one about the browser as a whole. -/
def BrowserCall.IsOfSession : BrowserCall → Prop
  | .start | .launch _ _ | .closeBrowser | .stop => True
  | _ => False

namespace Event

/-- What drives the browser was started. -/
def starts : Event → Bool
  | ⟨.start, .ok _⟩ => true
  | _ => false

/-- The browser was launched. -/
def launches : Event → Bool
  | ⟨.launch _ _, .ok _⟩ => true
  | _ => false

/-- The fault with which the call failed. -/
def fault? (e : Event) : Option Fault :=
  match e.answer with
  | .ok _ => none
  | .error failure => e.question.fault? failure

/-- If the call failed, the browser says so. -/
def IsOfBrowser (e : Event) : Prop :=
  ∀ fault ∈ e.fault?, fault.isOfBrowser = true

/-- If a call about the browser as a whole failed, the browser says so. -/
def IsReported (e : Event) : Prop :=
  e.question.IsOfSession → e.IsOfBrowser

end Event

namespace Action

variable {ε ε' α β : Type} {t : List Event}

/-- A call that fails has failed with its fault. -/
theorem exists_fault_of_course_make {c : BrowserCall} {failure : c.Failure} {fault : Fault}
    (course : c.make.run.Course t (.error failure)) (own : c.fault? failure = some fault) :
    ∃ e ∈ t, Event.fault? e = some fault := by
  obtain rfl := course_make_iff.1 course
  exact ⟨_, List.mem_singleton_self _, own⟩

theorem isOfBrowser_of_course_make {c : BrowserCall} {answer : c.Answer} (session : c.IsOfSession)
    (course : c.make.run.Course t answer) (honest : ∀ e ∈ t, Event.IsReported e) :
    ∀ e ∈ t, Event.IsOfBrowser e := by
  obtain rfl := course_make_iff.1 course
  exact List.forall_mem_singleton.2 (honest _ List.mem_cons_self session)

/-- The action fails only with the fault of a call. -/
def Reports (x : Action Fault α) : Prop :=
  ∀ t fault, x.run.Course t (.error fault) → ∃ e ∈ t, Event.fault? e = some fault

theorem reports_pure (a : α) : (pure a : Action Fault α).Reports := by
  intro t fault course
  obtain ⟨-, no⟩ := course_pure_iff.1 course
  cases no

theorem reports_total (x : Action Empty α) : (x.total : Action Fault α).Reports := by
  intro t fault course
  obtain ⟨no | a, -, same⟩ := course_rephrase_iff.1 course
  · exact no.elim
  · cases same

theorem Reports.bind {x : Action Fault α} {f : α → Action Fault β} (reports : x.Reports)
    (later : ∀ a, (f a).Reports) : (x >>= f).Reports := by
  intro t fault course
  obtain ⟨fault', own, same⟩ | ⟨first, a, rest, rfl, -, rest'⟩ := course_bind_iff.1 course
  · cases same
    exact reports t fault own
  · obtain ⟨e, mem, own⟩ := later a rest fault rest'
    exact ⟨e, List.mem_append_right first mem, own⟩

/-- What is left of an outcome when a fault that the browser reports counts as success. -/
def quiet : Except Fault Unit → Except Fault Unit
  | .ok () => .ok ()
  | .error fault => if fault.isOfBrowser then .ok () else .error fault

theorem quiet_eq_ok {own : Except Fault Unit}
    (reported : ∀ fault, own = .error fault → fault.isOfBrowser = true) : quiet own = .ok () := by
  cases own with
  | ok _ => rfl
  | error fault => exact if_pos (reported fault rfl)

theorem course_quietly_iff {x : Action Fault Unit} {outcome : Except Fault Unit} :
    x.quietly.run.Course t outcome ↔ ∃ own, x.run.Course t own ∧ outcome = quiet own := by
  have handled : ∀ {rest : List Event} {fault : Fault},
      (if fault.isOfBrowser then pure () else throw fault : Action Fault Unit).run.Course rest
        outcome ↔ rest = [] ∧ outcome = quiet (.error fault) := by
    intro rest fault
    by_cases reported : fault.isOfBrowser = true
    · rw [quiet, if_pos reported, if_pos reported]
      exact course_pure_iff
    · rw [quiet, if_neg reported, if_neg reported]
      exact course_throw_iff
  rw [quietly, course_tryCatch_iff]
  constructor
  · rintro (⟨_, own, rfl⟩ | ⟨first, fault, rest, rfl, own, later⟩)
    · exact ⟨_, own, rfl⟩
    · obtain ⟨rfl, rfl⟩ := handled.1 later
      exact ⟨_, (List.append_nil first).symm ▸ own, rfl⟩
  · rintro ⟨_ | fault, own, rfl⟩
    · exact .inr ⟨t, _, [], (List.append_nil t).symm, own, handled.2 ⟨rfl, rfl⟩⟩
    · exact .inl ⟨_, own, rfl⟩

end Action

end CriticalCss
