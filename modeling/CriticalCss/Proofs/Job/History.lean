import CriticalCss.Job.Task
import Mathlib.Data.List.Induction

/-!
# What a store knows of a job

A store is changed by calls: jobs are created, and marked as they go on (`JobStore.Call`). What it
says of a job in the end depends on the calls with the number of this job alone
(`find?_after`), and of these only on the last creation and the marks behind it
(`IsLife.find?_after`): the status is that of the last mark, while the result and the error are
those of the last marks that had one. So a record is in order just if no mark that settles the
job is followed by a mark of another kind (`Job.isConsistent_marked_iff`), and it is not if a job
that was settled is carried out again.
-/

namespace CriticalCss

/-! ## Putting and finding -/

namespace JobStore

variable {store : JobStore} {id other : String} {job : Job}

theorem find?_cons {known : String} {old : Job} :
    find? ((known, old) :: store) other =
      if other = known then some old else store.find? other := by
  rw [find?, List.lookup_cons]
  by_cases same : other = known
  · simp [same]
  · simp [beq_eq_false_iff_ne.2 same, same, find?]

theorem find?_put :
    (store.put id job).find? other = if id = other then some job else store.find? other := by
  induction store with
  | nil =>
    rw [put, find?_cons]
    exact ite_congr (propext eq_comm) (fun _ => rfl) fun _ => rfl
  | cons entry rest ih =>
    obtain ⟨known, old⟩ := entry
    rw [put]
    split
    · rename_i same
      rw [find?_cons, find?_cons, same]
      grind
    · rw [find?_cons, find?_cons, ih]
      grind

theorem change_eq (f : Job → Job) :
    store.change id f =
      match store.find? id with
      | some job => .ok (f job, store.put id (f job))
      | none => .error ⟨id⟩ := by
  unfold change replace require
  cases found : store.find? id with
  | none => rfl
  | some job => rfl

end JobStore

/-! ## Calls -/

namespace JobStore

/-- What a call does to a job. -/
inductive Act where
  | create (type : String) (payload : Json)
  | processing
  | completed (result : Members)
  | failed (message : String)
deriving DecidableEq, Repr

/-- A call on a store. -/
structure Call where
  id : String
  now : Nat
  act : Act
deriving DecidableEq, Repr

namespace Call

/-- The store behind a call. One that names no job that is known changes nothing. -/
def run (c : Call) (store : JobStore) : JobStore :=
  match c.act with
  | .create type payload => (store.create c.now c.id type payload).2
  | .processing => ((store.markProcessing c.now c.id).map (·.2)).toOption.getD store
  | .completed result =>
    ((store.markCompleted c.now c.id (.obj result)).map (·.2)).toOption.getD store
  | .failed message => ((store.markFailed c.now c.id message).map (·.2)).toOption.getD store

/-- The record of the job behind a call. -/
def record (c : Call) (job : Option Job) : Option Job :=
  match c.act with
  | .create type payload => some (.new c.now c.id type payload)
  | .processing => job.map (.withStatus c.now .processing)
  | .completed result => job.map (.withResult c.now (.obj result))
  | .failed message => job.map (.withError c.now message)

/-- A call changes the record of its own job and no other. -/
theorem find?_run (c : Call) (store : JobStore) (id : String) :
    (c.run store).find? id = if c.id = id then c.record (store.find? id) else store.find? id := by
  have changed : ∀ f : Job → Job,
      (((store.change c.id f).map (·.2)).toOption.getD store).find? id =
        if c.id = id then (store.find? id).map f else store.find? id := by
    intro f
    rw [change_eq]
    by_cases own : c.id = id
    · subst own
      cases found : store.find? c.id with
      | none => simp [Except.map, Except.toOption, found]
      | some job => simp [Except.map, Except.toOption, find?_put]
    · cases store.find? c.id with
      | none => simp [Except.map, Except.toOption, own]
      | some job => simp [Except.map, Except.toOption, find?_put, own]
  unfold run record
  cases c.act with
  | create type payload => exact find?_put
  | processing => exact changed _
  | completed result => exact changed _
  | failed message => exact changed _

end Call

variable {calls : List Call} {id : String}

/-- The store behind a row of calls. -/
def after (calls : List Call) : JobStore :=
  calls.foldl (fun store c => c.run store) []

theorem find?_foldl_run (store : JobStore) :
    (calls.foldl (fun store c => c.run store) store).find? id =
      (calls.filter (·.id = id)).foldl (fun job c => c.record job) (store.find? id) := by
  induction calls generalizing store with
  | nil => rfl
  | cons c calls ih =>
    rw [List.foldl_cons, ih, c.find?_run]
    by_cases own : c.id = id
    · rw [List.filter_cons_of_pos (by simpa using own), List.foldl_cons, if_pos own]
    · rw [List.filter_cons_of_neg (by simpa using own), if_neg own]

/-- **What a store says of a job depends on the calls with its number alone.** -/
theorem find?_after : (after calls).find? id =
    (calls.filter (·.id = id)).foldl (fun job c => c.record job) none :=
  find?_foldl_run []

/-! ## Marks -/

namespace Act

/-- The status that the call gives the job. -/
def status : Act → JobStatus
  | create _ _ => .queued
  | processing => .processing
  | completed _ => .completed
  | failed _ => .failed

def isCreation : Act → Bool
  | create _ _ => true
  | _ => false

/-- The result that the call notes. -/
def result? : Act → Option Json
  | completed result => some (.obj result)
  | _ => none

/-- The error that the call notes. -/
def error? : Act → Option String
  | failed message => some message
  | _ => none

theorem isSome_result?_iff {act : Act} : act.result?.isSome = true ↔ act.status = .completed := by
  cases act <;> simp [result?, status]

theorem isSome_error?_iff {act : Act} : act.error?.isSome = true ↔ act.status = .failed := by
  cases act <;> simp [error?, status]

end Act

end JobStore

open JobStore

namespace Job

/-- The record of a job behind some marks: each mark sets the status, and keeps the result and the
error of those before it unless it has one of its own. -/
def marked (job : Job) (marks : List Call) : Job :=
  { job with
    status := (marks.getLast?.map (·.act.status)).getD job.status
    updatedAt := (marks.getLast?.map (·.now)).getD job.updatedAt
    result := (marks.filterMap (·.act.result?)).getLast?.or job.result
    error := (marks.filterMap (·.act.error?)).getLast?.or job.error }

theorem foldl_record_marks {job : Job} {marks : List Call}
    (only : ∀ m ∈ marks, m.act.isCreation = false) :
    marks.foldl (fun job c => c.record job) (some job) = some (job.marked marks) := by
  induction marks using List.reverseRecOn with
  | nil => simp [marked]
  | append_singleton marks m ih =>
    obtain ⟨others, own⟩ := List.forall_mem_append.1 only
    rw [List.foldl_append, ih others, List.foldl_cons, List.foldl_nil]
    have isMark := own m List.mem_cons_self
    unfold Call.record
    cases shape : m.act with
    | create type payload => simp [shape, Act.isCreation] at isMark
    | processing | completed result | failed message =>
      simp [marked, withStatus, withResult, withError, shape, Act.status, Act.result?, Act.error?,
        List.filterMap_append]

/-- There is a result just if the job is completed, and an error just if it has failed. -/
def IsConsistent (job : Job) : Prop :=
  (job.result.isSome = true ↔ job.status = .completed) ∧
    (job.error.isSome = true ↔ job.status = .failed)

instance (job : Job) : Decidable job.IsConsistent :=
  inferInstanceAs (Decidable (_ ∧ _))

section New

variable {now : Nat} {id type : String} {payload : Json} {marks : List Call}

theorem isSome_getLast?_filterMap_iff {β : Type} {f : Call → Option β} :
    (marks.filterMap f).getLast?.isSome = true ↔ ∃ m ∈ marks, (f m).isSome = true := by
  rw [List.getLast?_isSome, Ne, List.filterMap_eq_nil_iff]
  simp [Option.isSome_iff_ne_none]

theorem isSome_result_marked_iff : ((new now id type payload).marked marks).result.isSome = true ↔
    ∃ m ∈ marks, m.act.status = .completed := by
  simp only [marked, new, Option.or_none, isSome_getLast?_filterMap_iff, Act.isSome_result?_iff]

theorem isSome_error_marked_iff : ((new now id type payload).marked marks).error.isSome = true ↔
    ∃ m ∈ marks, m.act.status = .failed := by
  simp only [marked, new, Option.or_none, isSome_getLast?_filterMap_iff, Act.isSome_error?_iff]

/-- A status other than the first one comes from a mark. -/
theorem exists_mark_of_status {status : JobStatus} (different : status ≠ .queued)
    (is : ((new now id type payload).marked marks).status = status) :
    ∃ m ∈ marks, m.act.status = status := by
  cases last : marks.getLast? with
  | none => exact (different (by simpa [marked, last, new, eq_comm] using is)).elim
  | some m => exact ⟨m, List.mem_of_getLast? last, by simpa [marked, last] using is⟩

/-- **A record is in order just if every mark that settles the job agrees with its status.** -/
theorem isConsistent_marked_iff : ((new now id type payload).marked marks).IsConsistent ↔
    ∀ m ∈ marks, m.act.status = .completed ∨ m.act.status = .failed →
      m.act.status = ((new now id type payload).marked marks).status := by
  rw [IsConsistent, isSome_result_marked_iff, isSome_error_marked_iff]
  constructor
  · rintro ⟨completed, failed⟩ m mem (is | is)
    · exact is.trans (completed.1 ⟨m, mem, is⟩).symm
    · exact is.trans (failed.1 ⟨m, mem, is⟩).symm
  · intro agree
    refine ⟨⟨?_, exists_mark_of_status nofun⟩, ⟨?_, exists_mark_of_status nofun⟩⟩
    · rintro ⟨m, mem, is⟩
      exact (agree m mem (.inl is)).symm.trans is
    · rintro ⟨m, mem, is⟩
      exact (agree m mem (.inr is)).symm.trans is

end New

end Job

namespace JobStore

variable {calls : List Call} {id : String}

/-- The calls with the number of a job end with a creation and these marks. -/
structure IsLife (calls : List Call) (id : String) (creation : Call) (marks : List Call) :
    Prop where
  row : ∃ before, calls.filter (·.id = id) = before ++ creation :: marks
  creates : creation.act.isCreation = true
  marked : ∀ m ∈ marks, m.act.isCreation = false

theorem foldl_record_none {marks : List Call} (only : ∀ m ∈ marks, m.act.isCreation = false) :
    marks.foldl (fun job c => c.record job) none = none := by
  induction marks with
  | nil => rfl
  | cons m marks ih =>
    obtain ⟨own, others⟩ := List.forall_mem_cons.1 only
    have unknown : m.record none = none := by
      unfold Call.record
      cases shape : m.act with
      | create type payload => simp [shape, Act.isCreation] at own
      | _ => rfl
    rw [List.foldl_cons, unknown, ih others]

/-- Calls with a creation among them end with the last one and marks. -/
theorem exists_last_creation {row : List Call} (some : ∃ c ∈ row, c.act.isCreation = true) :
    ∃ before creation marks, row = before ++ creation :: marks ∧
      creation.act.isCreation = true ∧ ∀ m ∈ marks, m.act.isCreation = false := by
  induction row using List.reverseRecOn with
  | nil =>
    obtain ⟨c, no, -⟩ := some
    cases no
  | append_singleton row m ih =>
    cases last : m.act.isCreation with
    | true => exact ⟨row, m, [], rfl, last, nofun⟩
    | false =>
      obtain ⟨c, mem, creates⟩ := some
      have earlier : c ∈ row := by
        rcases List.mem_append.1 mem with mem | mem
        · exact mem
        · rw [List.mem_singleton.1 mem, last] at creates
          cases creates
      obtain ⟨before, creation, marks, rfl, first, only⟩ := ih ⟨c, earlier, creates⟩
      refine ⟨before, creation, marks ++ [m], by simp, first, List.forall_mem_append.2 ⟨only, ?_⟩⟩
      exact List.forall_mem_singleton.2 last

/-- The record of a job behind its creation and the marks since then. -/
theorem IsLife.find?_after {creation : Call} {marks : List Call}
    (life : IsLife calls id creation marks) :
    ∃ type payload, (after calls).find? id =
      some ((Job.new creation.now creation.id type payload).marked marks) := by
  obtain ⟨⟨before, row⟩, creates, only⟩ := life
  cases shape : creation.act with
  | create type payload =>
    refine ⟨type, payload, ?_⟩
    rw [JobStore.find?_after, row, List.foldl_append, List.foldl_cons,
      ← Job.foldl_record_marks only]
    simp only [Call.record, shape]
  | _ => simp [shape, Act.isCreation] at creates

/-- **A record tells the last life of its job**: the status of the last mark, and the results and
errors of the last marks that had one. So it is in order just if every mark that settles the job
agrees with its status. -/
theorem tells_last_life {job : Job} (found : (after calls).find? id = some job) :
    ∃ creation marks, IsLife calls id creation marks ∧
      job.status = (marks.getLast?.map (·.act.status)).getD .queued ∧
      job.result = (marks.filterMap (·.act.result?)).getLast? ∧
      job.error = (marks.filterMap (·.act.error?)).getLast? ∧
      (job.IsConsistent ↔ ∀ m ∈ marks, m.act.status = .completed ∨ m.act.status = .failed →
        m.act.status = job.status) := by
  have created : ∃ c ∈ calls.filter (·.id = id), c.act.isCreation = true := by
    by_contra never
    rw [JobStore.find?_after, foldl_record_none] at found
    · cases found
    · exact fun m mem => Bool.eq_false_iff.2 fun creates => never ⟨m, mem, creates⟩
  obtain ⟨before, creation, marks, row, creates, only⟩ := exists_last_creation created
  have life : IsLife calls id creation marks := ⟨⟨before, row⟩, creates, only⟩
  obtain ⟨type, payload, known⟩ := life.find?_after
  cases found.symm.trans known
  refine ⟨creation, marks, life, rfl, ?_, ?_, Job.isConsistent_marked_iff⟩
  · exact Option.or_none
  · exact Option.or_none

/-- A job that is carried out again after it was completed, and fails then. -/
def redelivered : List Call :=
  [⟨"j", 0, .create "critical_css" (.obj [])⟩, ⟨"j", 1, .processing⟩,
    ⟨"j", 2, .completed [("critical_css", .str "x")]⟩, ⟨"j", 3, .processing⟩,
    ⟨"j", 4, .failed "boom"⟩]

theorem tells_last_life_of_redelivered :
    ∃ job, (after redelivered).find? "j" = some job ∧
      ∃ creation marks, IsLife redelivered "j" creation marks ∧
        job.status = (marks.getLast?.map (·.act.status)).getD .queued ∧
        job.result = (marks.filterMap (·.act.result?)).getLast? ∧
        job.error = (marks.filterMap (·.act.error?)).getLast? ∧
        (job.IsConsistent ↔ ∀ m ∈ marks, m.act.status = .completed ∨ m.act.status = .failed →
          m.act.status = job.status) :=
  ⟨_, rfl, tells_last_life rfl⟩

/-- **A record can be out of order**: a job that failed keeps the result of an earlier time. -/
theorem result_kept_by_failed_job :
    ∃ job, (after redelivered).find? "j" = some job ∧ job.status = .failed ∧
      job.result = some (.obj [("critical_css", .str "x")]) ∧ ¬ job.IsConsistent :=
  ⟨_, rfl, rfl, rfl, by decide⟩

end JobStore

end CriticalCss
