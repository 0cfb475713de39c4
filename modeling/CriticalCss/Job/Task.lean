import CriticalCss.Job.Store
import CriticalCss.Report

/-!
# Carrying out jobs

A job for critical CSS holds a request as data. Carrying it out settles it: its record ends with
the report, or with the text of what went wrong. How the problems of a request are put into words
is left open.
-/

namespace CriticalCss

/-- Why a job has no report. -/
inductive TaskError where
  /-- The list of pages is a value that has no length. -/
  | unsized (typeName : String)
  | unknown (cause : JobNotFound)
  | request (cause : RequestError)
deriving DecidableEq, Repr

def TaskError.message : TaskError → String
  | unsized typeName => "object of type '" ++ typeName ++ "' has no len()"
  | unknown cause => cause.message
  | request cause => cause.message

namespace Task

/-- A value that has a length. -/
def isSized : Json → Bool
  | .str _ | .arr _ | .obj _ => true
  | _ => false

variable (wording : Members → List Problem → String)

/-- The report on a request that is given as data. -/
def report (payload : Members) : Talk (Except RequestError Report) :=
  match Request.ofMembers .direct payload with
  | .bad problems => return .error (.invalid problems (wording payload problems))
  | .good request => request.carryOut

/-- Notes what came of a job. -/
def settle (now : Nat) (id : String) (store : JobStore) :
    Except RequestError Report → Except TaskError Json × JobStore
  | .ok report =>
    match store.markCompleted now id report.toJson with
    | .ok (_, store) => (.ok report.toJson, store)
    | .error cause => (.error (.unknown cause), store)
  | .error cause =>
    match store.markFailed now id cause.message with
    | .ok (_, store) => (.error (.request cause), store)
    | .error unknown => (.error (.unknown unknown), store)

/-- Carries out the job with a number. A job that is not known is left alone, as is one whose list
of pages has no length. -/
def perform (now : Nat) (store : JobStore) (id : String) (payload : Members) :
    Talk (Except TaskError Json × JobStore) :=
  match payload.lookup "urls" with
  | some urls => if isSized urls then go else return (.error (.unsized urls.typeName), store)
  | none => go
where
  /-- Carries out a job whose list of pages has a length or is missing. -/
  go : Talk (Except TaskError Json × JobStore) :=
    match store.markProcessing now id with
    | .error cause => return (.error (.unknown cause), store)
    | .ok (_, store) => return settle now id store (← report wording payload)

end Task

end CriticalCss
