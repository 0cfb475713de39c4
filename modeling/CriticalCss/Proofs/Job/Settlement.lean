import CriticalCss.Job.Task
import CriticalCss.Proofs.Browser.Course
import CriticalCss.Proofs.Job.History

/-!
# How a job is settled

Carrying out a known job is making a report and settling the job with what comes of it
(`Task.go_of_known`), unless its list of pages has no length (`Task.perform_cases`). A number that
is not known is refused before anything is asked of a browser, and the store stays as it is.
Otherwise the record of the job ends as completed or failed and tells what was returned, its other
fields are kept, and so are the records of all other jobs (`JobStore.Settles`):
`Task.perform_settles`.
-/

namespace CriticalCss

/-! ## Settled records -/

/-- The record is left of another one by carrying out the job: it is completed with what was
returned, or failed with the text of the error. -/
structure Job.IsSettled (before after : Job) (returned : Except TaskError Json) : Prop where
  id : after.id = before.id
  type : after.type = before.type
  payload : after.payload = before.payload
  createdAt : after.createdAt = before.createdAt
  completed : ∀ result, returned = .ok result →
    after.status = .completed ∧ after.result = some result
  failed : ∀ e, returned = .error e → after.status = .failed ∧ after.error = some e.message

namespace JobStore

/-- Carrying out the job with a number leaves the other store: its record is settled, and no other
job is touched. -/
structure Settles (store : JobStore) (id : String) (returned : Except TaskError Json)
    (after : JobStore) : Prop where
  record : ∃ before record, store.find? id = some before ∧ after.find? id = some record ∧
    before.IsSettled record returned
  others : ∀ other, other ≠ id → after.find? other = store.find? other
  ids : after.map Prod.fst = store.map Prod.fst

variable {store : JobStore} {id : String} {job : Job}

theorem put_put (first last : Job) (store : JobStore) :
    (store.put id first).put id last = store.put id last := by
  induction store with
  | nil => simp [put]
  | cons entry rest ih =>
    obtain ⟨known, old⟩ := entry
    by_cases same : known = id
    · simp [put, same]
    · simp [put, same, ih]

/-- A record that takes the place of another one leaves the numbers in their order. -/
theorem map_fst_put (found : store.find? id = some job) (next : Job) :
    (store.put id next).map Prod.fst = store.map Prod.fst := by
  induction store with
  | nil => cases found
  | cons entry rest ih =>
    obtain ⟨known, old⟩ := entry
    rw [find?_cons] at found
    rw [put]
    split
    · rfl
    · rename_i other
      rw [if_neg (Ne.symm other)] at found
      rw [List.map_cons, ih found]
      rfl

/-- Changing a known job puts its changed record in the place of the old one. -/
theorem change_of_find? (found : store.find? id = some job) (f : Job → Job) :
    store.change id f = .ok (f job, store.put id (f job)) := by
  rw [change_eq, found]

theorem change_of_find?_eq_none (unknown : store.find? id = none) (f : Job → Job) :
    store.change id f = .error ⟨id⟩ := by
  rw [change_eq, unknown]

end JobStore

open JobStore Dialogue

/-! ## Carrying out a job -/

namespace Task

variable {wording : Members → List Problem → String} {now : Nat} {store : JobStore} {id : String}
  {job : Job} {payload : Members}

/-- What carrying out a job returns for what comes of its report. -/
def returned : Except RequestError Report → Except TaskError Json
  | .ok report => .ok report.toJson
  | .error cause => .error (.request cause)

/-- The record of a job for what comes of its report. -/
def settled (now : Nat) (job : Job) : Except RequestError Report → Job
  | .ok report => job.withResult now report.toJson
  | .error cause => job.withError now cause.message

theorem isSettled_settled (now : Nat) (job : Job) (outcome : Except RequestError Report) :
    job.IsSettled (settled now job outcome) (returned outcome) := by
  cases outcome with
  | ok report =>
    refine ⟨rfl, rfl, rfl, rfl, fun result same => ?_, nofun⟩
    cases same
    exact ⟨rfl, rfl⟩
  | error cause =>
    refine ⟨rfl, rfl, rfl, rfl, nofun, fun e same => ?_⟩
    cases same
    exact ⟨rfl, rfl⟩

/-- A job that is being carried out is settled with its outcome. -/
theorem settle_processing (outcome : Except RequestError Report) :
    settle now id (store.put id (job.withStatus now .processing)) outcome =
      (returned outcome, store.put id (settled now job outcome)) := by
  have processing : (store.put id (job.withStatus now .processing)).find? id =
      some (job.withStatus now .processing) := by
    rw [find?_put, if_pos rfl]
  cases outcome with
  | ok report =>
    rw [settle, markCompleted, change_of_find? processing]
    exact congrArg (Prod.mk _) (put_put _ _ store)
  | error cause =>
    rw [settle, markFailed, change_of_find? processing]
    exact congrArg (Prod.mk _) (put_put _ _ store)

/-- A job whose list of pages has a length goes on, and any other is left alone. -/
theorem perform_cases (wording : Members → List Problem → String) (now : Nat) (store : JobStore)
    (id : String) (payload : Members) :
    perform wording now store id payload = perform.go wording now store id payload ∨
      ∃ typeName, perform wording now store id payload =
        pure (.error (.unsized typeName), store) := by
  rw [perform]
  split
  · rename_i urls _
    cases sized : isSized urls with
    | true => exact .inl (if_pos rfl)
    | false => exact .inr ⟨urls.typeName, if_neg Bool.false_ne_true⟩
  · exact .inl rfl

theorem go_of_unknown (unknown : store.find? id = none) :
    perform.go wording now store id payload = pure (.error (.unknown ⟨id⟩), store) := by
  rw [perform.go, markProcessing, change_of_find?_eq_none unknown]

/-- Going on with a known job is settling it with what comes of its report. -/
theorem go_of_known (found : store.find? id = some job) :
    perform.go wording now store id payload = do
      let outcome ← report wording payload
      return (returned outcome, store.put id (settled now job outcome)) := by
  rw [perform.go, markProcessing, change_of_find? found]
  refine bind_congr fun outcome => ?_
  rw [settle_processing]

/-! ## Records in order -/

/-- A record without a result and an error is in order when it is settled. -/
theorem isConsistent_settled (fresh : job.result = none ∧ job.error = none) (now : Nat)
    (outcome : Except RequestError Report) : (settled now job outcome).IsConsistent := by
  cases outcome with
  | ok report => simp [settled, Job.IsConsistent, Job.withResult, fresh]
  | error cause => simp [settled, Job.IsConsistent, Job.withError, fresh]

/-- **A job that is carried out for the first time is left in order.** -/
theorem isConsistent_of_course_perform {t : List Event} {result : Except TaskError Json × JobStore}
    (course : (perform wording now store id payload).Course t result)
    (found : store.find? id = some job)
    (fresh : job.result = none ∧ job.error = none)
    (before : job.IsConsistent) : ∃ job', result.2.find? id = some job' ∧ job'.IsConsistent := by
  obtain same | ⟨typeName, same⟩ := perform_cases wording now store id payload
  · rw [same, go_of_known found] at course
    obtain ⟨_, outcome, _, -, -, ended⟩ := course_bind_iff.1 course
    obtain ⟨-, rfl⟩ := course_pure_iff.1 ended
    exact ⟨_, by rw [find?_put, if_pos rfl], isConsistent_settled fresh now outcome⟩
  · rw [same] at course
    obtain ⟨-, rfl⟩ := course_pure_iff.1 course
    exact ⟨job, found, before⟩

/-! ## Every run settles its job -/

/-- The pages of a job are a list, or missing. -/
def ListsPages (payload : Members) : Prop :=
  ∀ urls, payload.lookup "urls" = some urls → ∃ items, urls = .arr items

theorem perform_of_listsPages (listed : ListsPages payload) :
    perform wording now store id payload = perform.go wording now store id payload := by
  rw [perform]
  split
  · rename_i urls found
    rcases listed urls found with ⟨items, rfl⟩
    exact if_pos rfl
  · rfl

theorem settles_put (found : store.find? id = some job) (now : Nat)
    (outcome : Except RequestError Report) :
    Settles store id (returned outcome) (store.put id (settled now job outcome)) where
  record := ⟨job, settled now job outcome, found, by rw [find?_put, if_pos rfl],
    isSettled_settled now job outcome⟩
  others other apart := by rw [find?_put, if_neg (Ne.symm apart)]
  ids := map_fst_put found _

/-- **A job that is carried out is settled, and no other is touched.** If the number is not known,
carrying out the job fails with just that, asks for nothing and leaves the store as it is.
Otherwise it makes a report, and whatever comes of that, the job is settled with what is
returned. -/
theorem perform_settles (listed : ListsPages payload) (wording : Members → List Problem → String)
    (now : Nat) (store : JobStore) (id : String) :
    (store.find? id = none →
      perform wording now store id payload = pure (.error (.unknown ⟨id⟩), store)) ∧
    ∀ job, store.find? id = some job → ∃ after : Except RequestError Report → JobStore,
      (perform wording now store id payload = do
        let outcome ← report wording payload
        return (returned outcome, after outcome)) ∧
      ∀ outcome, Settles store id (returned outcome) (after outcome) := by
  rw [perform_of_listsPages listed]
  refine ⟨go_of_unknown, fun job found => ?_⟩
  exact ⟨fun outcome => store.put id (settled now job outcome), go_of_known found,
    settles_put found now⟩

/-- A job that was completed before is carried out again, with a request that is not valid. -/
theorem perform_settles_of_redelivered :
    let wording (_ : Members) (_ : List Problem) : String :=
      "1 validation error for CriticalCSSRequest\nurls\n  List should have at least 1 item " ++
        "after validation, not 0 [type=too_short, input_value=[], input_type=list]"
    let payload : Members := [("template", .str "t"), ("urls", .arr [])]
    let old : Job := .withResult 1 (.obj []) (.new 0 "j" "critical_css" (.obj payload))
    let store : JobStore := [("i", .new 0 "i" "critical_css" .null), ("j", old)]
    (ListsPages payload ∧ store.find? "j" = some old) ∧
      ∃ after e, perform wording 5 store "j" payload = pure (.error e, after) ∧
        Settles store "j" (.error e) after ∧ after.find? "i" = store.find? "i" := by
  intro wording payload old store
  have listed : ListsPages payload := by
    intro urls found
    cases found
    exact ⟨_, rfl⟩
  have found : store.find? "j" = some old := by decide +kernel
  rcases (perform_settles listed wording 5 store "j").2 old found with ⟨after, equal, settles⟩
  let problems : List Problem := [⟨["urls"], .tooFew 1⟩]
  have invalid : Request.ofMembers .direct payload = .bad problems := by decide +kernel
  refine ⟨⟨listed, found⟩, after _, _, equal.trans ?_,
    settles (.error (.invalid problems (wording payload problems))),
    (settles _).others "i" (by decide)⟩
  rw [report, invalid]
  rfl

end Task

end CriticalCss
