import CriticalCss.Api.Service
import CriticalCss.Proofs.Browser.Course
import CriticalCss.Proofs.Job.History
import CriticalCss.Proofs.Options.Reading

/-!
# Taking requests as jobs

A message hands in a job if it shows the token and brings a request whose options are valid
(`Api.HandsIn`). The service takes such a message and no other, and what it does not take changes
nothing (`Api.respond_generate`). The job that it takes is in the store before it is carried out,
and what is carried out then can be read: the fields of a request that was read are read as this
request again, so its options cannot fail where they were checked before.
-/

namespace CriticalCss

/-- A record under a new number goes to the end of the store. -/
theorem JobStore.put_of_find?_eq_none {store : JobStore} {id : String}
    (new : store.find? id = none) (job : Job) : store.put id job = store ++ [(id, job)] := by
  induction store with
  | nil => rfl
  | cons entry rest ih =>
    obtain ⟨known, old⟩ := entry
    rw [find?_cons] at new
    split at new
    · cases new
    · rename_i other
      rw [put, if_neg (Ne.symm other), ih new, List.cons_append]

namespace Api

/-! ## The messages that are taken -/

/-- The message shows the token, alone or as that of a bearer, or none is asked for. -/
def ShowsToken (token : String) (m : Message) : Prop :=
  token = "" ∨ m.header? "authorization" = some token ∨
    m.header? "authorization" = some ("Bearer " ++ token)

instance (token : String) (m : Message) : Decidable (ShowsToken token m) :=
  inferInstanceAs (Decidable (_ ∨ _ ∨ _))

theorem isAuthorized_iff {token : String} {m : Message} :
    isAuthorized token m = true ↔ ShowsToken token m := by
  rw [isAuthorized, ShowsToken, Bool.or_eq_true, decide_eq_true_eq]
  cases m.header? "authorization" <;> simp

/-- The message hands in a job: it shows the token and brings a request that asks for the
options. -/
structure HandsIn (token : String) (m : Message) (request : Request) (options : RunOptions) :
    Prop where
  shown : ShowsToken token m
  brought : requestOf m.content = .good request
  checked : request.options = .ok options

/-- A request that a message brings is valid. -/
theorem isValid_of_requestOf {content : Message.Content} {request : Request}
    (read : requestOf content = .good request) : request.IsValid := by
  cases content with
  | json value =>
    have given := Checked.within_eq_good_iff.1 read
    cases value with
    | obj members => exact Request.isValid_of_ofMembers given
    | _ => cases given
  | _ => cases read

/-! ## The job of a request -/

/-- The number of the next job. -/
def State.next (s : State) : String :=
  jobId (s.issued + 1)

/-- The record of a job that was taken and not begun. -/
def State.queued (s : State) (now : Nat) (request : Request) : Job :=
  .new now s.next "critical_css" (.obj request.members)

/-- The jobs together with the next one. -/
def State.withQueued (s : State) (now : Nat) (request : Request) : JobStore :=
  s.jobs.put s.next (s.queued now request)

variable {wording : Members → List Problem → String} {token : String} {m : Message} {now : Nat}
  {s : State}

theorem respond_of_handsIn (route : Route.find m.method m.path = .found .generate)
    {request : Request} {options : RunOptions} (given : HandsIn token m request options) :
    respond wording token now m s = accept wording now request s := by
  rw [respond, route]
  simp only [respondAt]
  split
  · rename_i broken
    have read := given.brought
    rw [broken] at read
    cases read
  · rw [if_pos (isAuthorized_iff.2 given.shown), enqueue, given.brought]
    simp only [given.checked]

/-- A message that hands in no job is answered at once, and changes nothing. -/
theorem respond_of_not_handsIn (route : Route.find m.method m.path = .found .generate)
    (none : ¬ ∃ request options, HandsIn token m request options) :
    ∃ answer, answer.status ≠ 202 ∧ respond wording token now m s = pure (answer, s) := by
  have invalid : (422 : Nat) ≠ 202 := by decide
  rw [respond, route]
  simp only [respondAt]
  split
  · exact ⟨_, invalid, rfl⟩
  split
  · rename_i shown
    unfold enqueue
    cases read : requestOf m.content with
    | bad problems => exact ⟨_, invalid, rfl⟩
    | good request =>
      simp only
      cases checked : request.options with
      | error cause => exact ⟨_, invalid, rfl⟩
      | ok options =>
        exact (none ⟨request, options, isAuthorized_iff.1 shown, read, checked⟩).elim
  · exact ⟨_, by decide, rfl⟩

theorem status_of_course_accept {request : Request} {t : List (Dialogue.Exchange _ _)}
    {answer : Answer} {after : State}
    (course : (accept wording now request s).Course t (answer, after)) : answer.status = 202 := by
  obtain ⟨_, _, _, -, -, last⟩ := Dialogue.course_bind_iff.1 course
  obtain ⟨-, same⟩ := Dialogue.course_pure_iff.1 last
  cases same
  rfl

/-- The answer that a job is taken is given to the messages that hand one in. -/
theorem status_eq_iff (route : Route.find m.method m.path = .found .generate)
    {t : List (Dialogue.Exchange _ _)} {answer : Answer} {after : State}
    (course : (respond wording token now m s).Course t (answer, after)) :
    answer.status = 202 ↔ ∃ request options, HandsIn token m request options := by
  constructor
  · intro taken
    by_contra none
    obtain ⟨other, status, same⟩ : ∃ other, other.status ≠ 202 ∧
        respond wording token now m s = pure (other, s) := respond_of_not_handsIn route none
    rw [same] at course
    obtain ⟨-, pair⟩ := Dialogue.course_pure_iff.1 course
    cases pair
    exact status taken
  · intro given
    obtain ⟨request, options, given⟩ := given
    rw [respond_of_handsIn route given] at course
    exact status_of_course_accept course

end Api

end CriticalCss
