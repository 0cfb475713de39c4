import CriticalCss.Api.Message
import CriticalCss.Api.Route
import CriticalCss.Job.Task

/-!
# The service

The service takes requests as jobs and reports on them. All but the state of health needs the
token of the service, if it has one. A job is carried out before the answer to its request is
given, and its record can be asked for from then on. How the problems of a job's request are put
into words is left open.
-/

namespace CriticalCss.Api

/-- What the service keeps between messages. -/
structure State where
  jobs : JobStore
  /-- The number of jobs so far. -/
  issued : Nat
deriving DecidableEq, Repr

/-- The service before its first message. -/
def State.initial : State where
  jobs := []
  issued := 0

/-- The number of the `n`-th job: 32 hexadecimal digits. -/
def jobId (n : Nat) : String :=
  let digits := Nat.toDigits 16 n
  String.ofList ("css_".toList ++ List.replicate (32 - digits.length) '0' ++ digits)

/-- The message shows the token of the service, alone or as that of a bearer. A service without
a token asks for none. -/
def isAuthorized (token : String) (m : Message) : Bool :=
  token = "" ||
    match m.header? "authorization" with
    | some shown => shown = token || shown = "Bearer " ++ token
    | none => false

/-- The request that a content brings. -/
def requestOf (content : Message.Content) : Checked Request :=
  match content with
  | .absent => (Checked.fail .missing).within "body"
  | .json value => (Request.ofJson value).within "body"
  | .plain text => (Request.ofJson (.str text)).within "body"
  | .broken _ => (Checked.fail .missing).within "body"

variable (wording : Members → List Problem → String)

/-- Adds a job and carries it out. -/
def accept (now : Nat) (request : Request) (s : State) : Talk (Answer × State) := do
  let id := jobId (s.issued + 1)
  let payload := request.members
  let jobs := (s.jobs.create now id "critical_css" (.obj payload)).2
  let (_, jobs) ← Task.perform wording now jobs id payload
  return (⟨202, .obj [("job_id", .str id), ("status", .str JobStatus.queued.name)]⟩,
    ⟨jobs, s.issued + 1⟩)

/-- Takes a request as a job, if it is valid and its options are. -/
def enqueue (now : Nat) (content : Message.Content) (s : State) : Talk (Answer × State) :=
  match requestOf content with
  | .bad problems => return (.invalid problems, s)
  | .good request =>
    match request.options with
    | .error cause => return (.detail 422 (.strings cause.problems), s)
    | .ok _ => accept wording now request s

/-- The record of a job, as it is shown: an empty result is none. -/
def shown (job : Job) : Json :=
  .obj [("job_id", .str job.id), ("status", .str job.status.name),
    ("template", job.payload.get "template"),
    ("urls", (job.payload.get? "urls").getD (.arr [])),
    ("result", (job.result.filter Json.truth).getD .null), ("error", .ofOption job.error)]

/-- The answer to a question for a job. -/
def showJob (id : String) (s : State) : Answer :=
  match s.jobs.find? id with
  | some job => ⟨200, shown job⟩
  | none => .detail 404 (.str "Job not found")

/-- The answer to a message without the token. -/
def unauthorized : Answer :=
  .detail 401 (.str "Invalid API token")

/-- The answer at a place of the service. -/
def respondAt (token : String) (now : Nat) (m : Message) (s : State) :
    Place → Talk (Answer × State)
  | .health =>
    return (⟨200, .obj [("status", .str "ok"), ("environment", .str "development"),
      ("version", .str "2.0.0")]⟩, s)
  | .authCheck =>
    return (if isAuthorized token m then ⟨200, .obj [("status", .str "authorized")]⟩
      else unauthorized, s)
  | .job id => return (if isAuthorized token m then showJob id s else unauthorized, s)
  | .generate =>
    match m.content with
    | .broken place =>
      return (.detail 422 (.arr [.arr [.str ("body." ++ toString place),
        .str "JSON decode error"]]), s)
    | content =>
      if isAuthorized token m then enqueue wording now content s else return (unauthorized, s)

def respond (token : String) (now : Nat) (m : Message) (s : State) : Talk (Answer × State) :=
  match Route.find m.method m.path with
  | .found place => respondAt wording token now m s place
  | .wrongMethod => return (.detail 405 (.str "Method Not Allowed"), s)
  | .nowhere => return (.detail 404 (.str "Not Found"), s)

end CriticalCss.Api
