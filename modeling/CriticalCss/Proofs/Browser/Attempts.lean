import CriticalCss.Browser.Session
import CriticalCss.Proofs.Browser.Course
import CriticalCss.Proofs.Options.Standard

/-!
# How often an operation is tried

Which outcome is the last one can be told from the outcomes alone: the first that is not a failure
that may pass, or the one at which the attempts are used up (`callCount`). An operation that is
tried again is called just so often, and ends as its last call does: for outcomes that are given in
advance (`run_retry_given`), and for an operation that talks to a browser, whose courses are rows
of attempts with pauses between them (`course_retry_iff`). So a page is opened with the first
attempt that succeeds or fails for good, or not at all, with the failure of the last one
(`attempts_are_bounded`).
-/

namespace CriticalCss

open Dialogue

namespace Retry

/-! ## Counting calls -/

section Count

variable {ε α : Type} {mayPass : ε → Bool} {attempts : Nat}

/-- How many of the outcomes are seen: those up to the first that is final, but no more than there
are attempts, and at least one. -/
def callCount (mayPass : ε → Bool) (attempts : Nat) (outcomes : List (Except ε α)) : Nat :=
  min (outcomes.findIdx (isFinal mayPass) + 1) (max attempts 1)

theorem callCount_pos (attempts : Nat) (outcomes : List (Except ε α)) :
    0 < callCount mayPass attempts outcomes := by
  unfold callCount
  omega

/-- A single attempt makes one call, whatever comes of it. -/
theorem callCount_of_le_one (few : attempts ≤ 1) (outcomes : List (Except ε α)) :
    callCount mayPass attempts outcomes = 1 := by
  unfold callCount
  omega

theorem callCount_cons_of_isFinal {outcome : Except ε α} (final : isFinal mayPass outcome = true)
    (outcomes : List (Except ε α)) : callCount mayPass attempts (outcome :: outcomes) = 1 := by
  rw [callCount, List.findIdx_cons, final, cond_true]
  omega

/-- An outcome that is not final uses up one of several attempts. -/
theorem callCount_cons_of_not_isFinal {outcome : Except ε α}
    (again : isFinal mayPass outcome = false) (outcomes : List (Except ε α)) :
    callCount mayPass (attempts + 2) (outcome :: outcomes) =
      callCount mayPass (attempts + 1) outcomes + 1 := by
  rw [callCount, callCount, List.findIdx_cons, again, cond_false]
  omega

end Count

/-! ## Outcomes that are given -/

section Given

variable {ε α : Type} {mayPass : ε → Bool} {attempts : Nat}

/-- An operation whose outcomes are given in advance, with the number of calls so far. Behind the
given outcomes there is one that does not change. -/
def given (otherwise : Except ε α) : StateM (List (Except ε α) × Nat) (Except ε α) :=
  fun (outcomes, calls) => (outcomes.headD otherwise, outcomes.drop 1, calls + 1)

/-- One attempt of several takes the next outcome, and is the last one if that is final. -/
theorem run_retry_cons (otherwise first : Except ε α) (rest : List (Except ε α)) (calls : Nat) :
    (retry mayPass (pure ()) (given otherwise) (attempts + 2)).run (first :: rest, calls) =
      if isFinal mayPass first then (first, rest, calls + 1)
      else (retry mayPass (pure ()) (given otherwise) (attempts + 1)).run (rest, calls + 1) := by
  cases first with
  | ok a => rfl
  | error e =>
    rw [retry]
    change StateT.run (if mayPass e then _ else _) _ = _
    cases passes : mayPass e with
    | true =>
      rw [if_pos rfl, if_neg (by simp [isFinal, passes])]
      rfl
    | false =>
      rw [if_neg Bool.false_ne_true, if_pos (by simp [isFinal, passes])]
      rfl

/-- **An operation with given outcomes is called as often as these say**, and ends with the outcome
of the last call. -/
theorem run_retry_given {otherwise : Except ε α} {outcomes : List (Except ε α)} {calls : Nat}
    (enough : callCount mayPass attempts outcomes ≤ outcomes.length) :
    ∃ last, outcomes[callCount mayPass attempts outcomes - 1]? = some last ∧
      (retry mayPass (pure ()) (given otherwise) attempts).run (outcomes, calls) =
        (last, outcomes.drop (callCount mayPass attempts outcomes),
          calls + callCount mayPass attempts outcomes) := by
  induction attempts using retry.induct generalizing outcomes calls with
  | case1 | case2 =>
    rw [callCount_of_le_one (by omega)] at enough ⊢
    cases outcomes with
    | nil => cases enough
    | cons first rest => exact ⟨first, rfl, rfl⟩
  | case3 attempts ih =>
    cases outcomes with
    | nil => exact (Nat.not_lt_of_le enough (callCount_pos _ _)).elim
    | cons first rest =>
      rw [run_retry_cons]
      cases final : isFinal mayPass first with
      | true =>
        rw [callCount_cons_of_isFinal final]
        exact ⟨first, rfl, rfl⟩
      | false =>
        rw [callCount_cons_of_not_isFinal final] at enough ⊢
        have called : 0 < callCount mayPass (attempts + 1) rest := callCount_pos _ _
        obtain ⟨last, seen, run⟩ := @ih rest (calls + 1) (Nat.le_of_succ_le_succ enough)
        refine ⟨last, ?_, ?_⟩
        · rw [Nat.add_sub_cancel, ← seen, ← Nat.succ_pred_eq_of_pos called]
          rfl
        · rw [if_neg Bool.false_ne_true, run, List.drop_succ_cons, Nat.add_right_comm,
            Nat.add_assoc]

end Given

/-! ## Rows of attempts -/

section Row

variable {Q : Type} {A : Q → Type} {ε α : Type} {mayPass : ε → Bool} {pause : Dialogue Q A Unit}
  {operation : Dialogue Q A (Except ε α)} {attempts : Nat} {t : List (Exchange Q A)}
  {outcomes : List (Except ε α)} {outcome : Except ε α}

/-- The course of one attempt after another, with a pause between one and the next, and their
outcomes. -/
inductive AttemptRow (operation : Dialogue Q A (Except ε α)) (pause : Dialogue Q A Unit) :
    List (Except ε α) → List (Exchange Q A) → Prop
  | single {outcome : Except ε α} {t : List (Exchange Q A)} :
    operation.Course t outcome → AttemptRow operation pause [outcome] t
  | cons {outcome : Except ε α} {outcomes : List (Except ε α)}
    {first pausing rest : List (Exchange Q A)} :
    operation.Course first outcome → pause.Course pausing () →
    AttemptRow operation pause outcomes rest →
    AttemptRow operation pause (outcome :: outcomes) (first ++ (pausing ++ rest))

theorem AttemptRow.length_pos (row : AttemptRow operation pause outcomes t) :
    0 < outcomes.length := by
  cases row with
  | single => exact Nat.zero_lt_one
  | cons => exact Nat.zero_lt_succ _

/-- **An operation that talks is tried as often as its outcomes say**, and ends as the last attempt
does. -/
theorem course_retry_iff :
    (retry mayPass pause operation attempts).Course t outcome ↔
      ∃ outcomes, AttemptRow operation pause outcomes t ∧
        outcomes.length = callCount mayPass attempts outcomes ∧
        outcomes.getLast? = some outcome := by
  induction attempts using retry.induct generalizing t with
  | case1 | case2 =>
    rw [retry]
    constructor
    · intro course
      exact ⟨[outcome], .single course, (callCount_of_le_one (by omega) _).symm, rfl⟩
    · rintro ⟨outcomes, row, count, last⟩
      rw [callCount_of_le_one (by omega)] at count
      cases row with
      | single course =>
        cases last
        exact course
      | cons _ _ later => exact absurd count (Nat.ne_of_gt (Nat.succ_lt_succ later.length_pos))
  | case3 attempts ih =>
    rw [Nat.succ_eq_add_one, course_retry_succ_iff]
    constructor
    · rintro (⟨own, final⟩ | ⟨first, tried, pausing, rest, rfl, own, again, waiting, later⟩)
      · exact ⟨[outcome], .single own, (callCount_cons_of_isFinal final _).symm, rfl⟩
      · rcases ih.1 later with ⟨outcomes, row, count, last⟩
        refine ⟨tried :: outcomes, .cons own waiting row, ?_, ?_⟩
        · rw [callCount_cons_of_not_isFinal again, ← count]
          rfl
        · rw [List.getLast?_cons, last]
          rfl
    · rintro ⟨outcomes, row, count, last⟩
      cases row with
      | @single tried t own =>
        cases last
        cases final : isFinal mayPass tried with
        | true => exact .inl ⟨own, final⟩
        | false =>
          rw [callCount_cons_of_not_isFinal final] at count
          exact absurd count (Nat.ne_of_lt (Nat.succ_lt_succ (callCount_pos _ _)))
      | @cons tried outcomes first pausing rest own waiting later =>
        cases final : isFinal mayPass tried with
        | true =>
          rw [callCount_cons_of_isFinal final] at count
          exact absurd count (Nat.ne_of_gt (Nat.succ_lt_succ later.length_pos))
        | false =>
          rw [callCount_cons_of_not_isFinal final] at count
          rw [List.getLast?_cons_of_ne_nil (List.ne_nil_of_length_pos later.length_pos)] at last
          exact .inr ⟨first, tried, pausing, rest, rfl, own, final, waiting,
            ih.2 ⟨outcomes, later, Nat.succ.inj count, last⟩⟩

end Row

end Retry

/-! ## Opening pages -/

open Retry

namespace Page

/-- What comes of opening a page after the last attempt: what the browser reports is said in the
words of this step, and any other fault is passed on. -/
def acquired : Except Fault Page → Except PageError Page
  | .ok page => .ok page
  | .error (.error text) => .error (.noPage (.error text))
  | .error (.timeout text) => .error (.noPage (.timeout text))
  | .error (.other label text) => .error (.passed (.other label text))

theorem mapError_ofFault_noPage (last : Except Fault Page) :
    last.mapError (.ofFault .noPage) = acquired last := by
  rcases last with (_ | _ | _) | _ <;> rfl

theorem course_openPage_iff {o : RunOptions} {t : List Event} {result : Except PageError Page} :
    (openPage o).run.Course t result ↔
      ∃ outcomes last,
        AttemptRow (openOnce o).run ((fun _ => ()) <$> BrowserCall.pause.make.run) outcomes t ∧
        outcomes.length = callCount Fault.isOfBrowser o.pageAcquireAttempts.1 outcomes ∧
        outcomes.getLast? = some last ∧ result = acquired last := by
  rw [openPage, Action.course_rephrase_iff]
  constructor
  · rintro ⟨last, course, rfl⟩
    rcases course_retry_iff.1 course with ⟨outcomes, row, count, ends⟩
    exact ⟨outcomes, last, row, count, ends, mapError_ofFault_noPage last⟩
  · rintro ⟨outcomes, last, row, count, ends, rfl⟩
    exact ⟨last, course_retry_iff.2 ⟨outcomes, row, count, ends⟩,
      (mapError_ofFault_noPage last).symm⟩

end Page

/-- **Attempts are bounded.** An operation whose outcomes are given is called up to the first
outcome that is no failure that may pass, but at most as often as there are attempts, and at least
once; what comes of it is the outcome of the last call. In a browser that is running, a page is
opened in just these attempts: however the browser answers, the course is a row of attempts, as many
as their outcomes say, and each such row is a course; what comes of it is the page of the last
attempt, or its failure. -/
theorem attempts_are_bounded {ε α : Type} (mayPass : ε → Bool) (attempts : Nat)
    (otherwise : Except ε α) {outcomes : List (Except ε α)}
    (enough : min (outcomes.findIdx (isFinal mayPass) + 1) (max attempts 1) ≤ outcomes.length)
    (o : RunOptions) {s : Session} (running : s.launched = true) :
    let calls := min (outcomes.findIdx (isFinal mayPass) + 1) (max attempts 1)
    (∃ last, outcomes[calls - 1]? = some last ∧
      (retry mayPass (pure ()) (given otherwise) attempts).run (outcomes, 0) =
        (last, outcomes.drop calls, calls)) ∧
    ∀ t result, (s.openPage o).run.Course t result ↔
      ∃ tries last,
        AttemptRow (Page.openOnce o).run ((fun _ => ()) <$> BrowserCall.pause.make.run) tries t ∧
        tries.length =
          min (tries.findIdx (isFinal Fault.isOfBrowser) + 1) (max o.pageAcquireAttempts.1 1) ∧
        tries.getLast? = some last ∧ result = Page.acquired last := by
  intro calls
  constructor
  · rcases run_retry_given enough with ⟨last, seen, run⟩
    exact ⟨last, seen, run.trans (by rw [Nat.zero_add]; rfl)⟩
  · intro t result
    rw [Session.openPage, if_pos running]
    exact Page.course_openPage_iff

/-- A page is there with the third attempt, and another browser is busy at all three. -/
theorem attempts_are_bounded_of_busy_browser :
    let busy : Fault := .error "busy"
    let outcomes : List (Except Fault Nat) := [.error busy, .error (.timeout "late"), .ok 7, .ok 8]
    let o : RunOptions := .ofUrls "u" []
    let s : Session := ⟨true, true⟩
    (min (outcomes.findIdx (isFinal Fault.isOfBrowser) + 1) (max 3 1) ≤ outcomes.length ∧
      s.launched = true) ∧
      (retry Fault.isOfBrowser (pure ()) (given (.ok 0)) 3).run (outcomes, 0) =
        (.ok 7, [.ok 8], 3) ∧
      ∃ t, t.length = 5 ∧ (s.openPage o).run.Course t (.error (.noPage busy)) := by
  intro busy outcomes o s
  have enough : min (outcomes.findIdx (isFinal Fault.isOfBrowser) + 1) (max 3 1) ≤
      outcomes.length := by decide
  have running : s.launched = true := rfl
  rcases attempts_are_bounded Fault.isOfBrowser 3 (.ok 0) enough o running with
    ⟨⟨last, seen, run⟩, opens⟩
  have third : last = .ok 7 := by
    cases seen
    rfl
  have fails : (Page.openOnce o).run.Course [⟨.newContext (.ofOptions o), .error busy⟩]
      (.error busy) :=
    Action.course_bind_iff.2 (.inl ⟨busy, Action.course_make_iff.2 rfl, rfl⟩)
  have waits : ((fun _ => ()) <$> BrowserCall.pause.make.run : Talk Unit).Course
      [⟨.pause, .ok ()⟩] () := .ask (.done ())
  refine ⟨⟨enough, running⟩, third ▸ run, _, ?_, (opens _ _).2
    ⟨[.error busy, .error busy, .error busy], .error busy,
      .cons fails waits (.cons fails waits (.single fails)), by decide, rfl, rfl⟩⟩
  rfl

end CriticalCss
