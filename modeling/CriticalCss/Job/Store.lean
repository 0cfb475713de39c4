import CriticalCss.Json.Basic

/-!
# Jobs

A job is a request that is carried out later. The store holds a record of every job under its
number; the record says how far the job has come, and at the end what came of it. Times are
counted from outside.
-/

namespace CriticalCss

/-- How far a job has come. -/
inductive JobStatus where
  | queued
  | processing
  | completed
  | failed
deriving DecidableEq, Repr

def JobStatus.name : JobStatus → String
  | queued => "queued"
  | processing => "processing"
  | completed => "completed"
  | failed => "failed"

/-- The record of a job. -/
structure Job where
  id : String
  type : String
  status : JobStatus
  createdAt : Nat
  updatedAt : Nat
  error : Option String
  payload : Json
  result : Option Json
deriving DecidableEq, Repr

namespace Job

/-- The record of a new job. -/
def new (now : Nat) (id type : String) (payload : Json) : Job where
  id := id
  type := type
  status := .queued
  createdAt := now
  updatedAt := now
  error := none
  payload := payload
  result := none

def withStatus (now : Nat) (status : JobStatus) (job : Job) : Job :=
  { job with status, updatedAt := now }

/-- The record of a job that has come to a result. -/
def withResult (now : Nat) (result : Json) (job : Job) : Job :=
  { job with result := some result, status := .completed, updatedAt := now }

/-- The record of a job that has failed. -/
def withError (now : Nat) (message : String) (job : Job) : Job :=
  { job with error := some message, status := .failed, updatedAt := now }

end Job

/-- No job is known under a number. -/
structure JobNotFound where
  id : String
deriving DecidableEq, Repr

def JobNotFound.message (e : JobNotFound) : String :=
  "Job " ++ e.id ++ " not found"

/-- The records of all jobs by their numbers. -/
abbrev JobStore : Type := List (String × Job)

namespace JobStore

def find? (store : JobStore) (id : String) : Option Job :=
  store.lookup id

/-- Puts a record under a number, in the place of the one that is there. -/
def put (id : String) (job : Job) : JobStore → JobStore
  | [] => [(id, job)]
  | (known, old) :: rest =>
    if known = id then (known, job) :: rest else (known, old) :: put id job rest

/-- Adds the record of a new job. -/
def create (store : JobStore) (now : Nat) (id type : String) (payload : Json) : Job × JobStore :=
  let job := Job.new now id type payload
  (job, store.put id job)

/-- The record of a job that has to be there. -/
def require (store : JobStore) (id : String) : Except JobNotFound Job :=
  match store.find? id with
  | some job => .ok job
  | none => .error ⟨id⟩

/-- Replaces the record of a job. -/
def replace (store : JobStore) (id : String) (job : Job) : Except JobNotFound JobStore := do
  let _ ← store.require id
  return store.put id job

/-- Changes the record of a job. -/
def change (store : JobStore) (id : String) (f : Job → Job) :
    Except JobNotFound (Job × JobStore) := do
  let job := f (← store.require id)
  return (job, ← store.replace id job)

/-- Notes that a job is being carried out. -/
def markProcessing (store : JobStore) (now : Nat) (id : String) :
    Except JobNotFound (Job × JobStore) :=
  store.change id (.withStatus now .processing)

/-- Notes the result of a job. -/
def markCompleted (store : JobStore) (now : Nat) (id : String) (result : Json) :
    Except JobNotFound (Job × JobStore) :=
  store.change id (.withResult now result)

/-- Notes that a job has failed. -/
def markFailed (store : JobStore) (now : Nat) (id message : String) :
    Except JobNotFound (Job × JobStore) :=
  store.change id (.withError now message)

end JobStore

/-- The record of a job as an object, without its times. -/
def Job.toJson (job : Job) : Json :=
  .obj [("job_id", .str job.id), ("job_type", .str job.type), ("status", .str job.status.name),
    ("error", .ofOption job.error), ("payload", job.payload), ("result", job.result.getD .null)]

end CriticalCss
