import CriticalCss.Browser.Call
import CriticalCss.Retry
import CriticalCss.Url

/-!
# Pages

Opening a page, showing an address in it, letting it come to rest, measuring it, closing it. Each
step says in its own words what went wrong, so the cause of a failure names the step.
-/

namespace CriticalCss

/-- A page with the context that it is in. -/
structure Page where
  context : Nat
  number : Nat
deriving DecidableEq, Repr

/-- Why a page could not be evaluated. -/
inductive PageError where
  | notRunning
  | noPage (fault : Fault)
  | unreadable (url : String) (path : FilePath) (fault : FileFault)
  | navigation (url : String) (fault : Fault)
  | unsettled (fault : Fault)
  | noScreenshot (url : String) (fault : Fault)
  | noMeasurement (fault : Fault)
  | noStylesheets (url : String) (fault : Fault)
  | address (cause : AddressFault)
  /-- The measurement did not give a list. -/
  | notIterable (typeName : String)
  /-- A fault that no step has words for. -/
  | passed (fault : Fault)
deriving DecidableEq, Repr

namespace PageError

/-- The kinds of errors that stop the evaluation of a page. -/
inductive Kind where
  | acquisition
  | navigation
  | evaluation
deriving DecidableEq, Repr

/-- The kind of an error; a fault that no step has words for has none. -/
def kind? : PageError → Option Kind
  | notRunning | noPage _ => some .acquisition
  | unreadable _ _ _ | navigation _ _ => some .navigation
  | unsettled _ | noScreenshot _ _ | noMeasurement _ | noStylesheets _ _ => some .evaluation
  | address _ | notIterable _ | passed _ => none

def message : PageError → String
  | notRunning => "Browser is not running"
  | noPage fault => "Could not get a page from the browser: " ++ fault.message
  | unreadable url path fault =>
    "Local page " ++ url ++ " could not be read: " ++ fault.message path
  | navigation url fault => "Navigation to " ++ url ++ " failed: " ++ fault.message
  | unsettled fault => "Page did not settle: " ++ fault.message
  | noScreenshot url fault => "Screenshot of " ++ url ++ " failed: " ++ fault.message
  | noMeasurement fault => "Critical selector measurement failed: " ++ fault.message
  | noStylesheets url fault => "Stylesheets of " ++ url ++ " could not be read: " ++ fault.message
  | address cause => cause.message
  | notIterable typeName => "'" ++ typeName ++ "' object is not iterable"
  | passed fault => fault.message

/-- The name of an error, as messages show it. -/
def label (e : PageError) : String :=
  match e.kind?, e with
  | some .acquisition, _ => "PageAcquisitionError"
  | some .navigation, _ => "NavigationError"
  | some .evaluation, _ => "EvaluationError"
  | none, notIterable _ => "TypeError"
  | none, passed fault => fault.label
  | none, _ => "ValueError"

/-- The error that a fault makes of a step, if the browser reports it. -/
def ofFault (cause : Fault → PageError) (fault : Fault) : PageError :=
  if fault.isOfBrowser then cause fault else passed fault

/-- The error that a file makes that cannot be read. -/
def ofFileFault (url : String) (path : FilePath) (fault : FileFault) : PageError :=
  match fault.foreignName? with
  | none => unreadable url path fault
  | some name => passed (.other name (fault.message path))

end PageError

namespace Page

/-- Gets a new page ready, in a context that is there. -/
def prepare (o : RunOptions) (context : Nat) : Action Fault Page := do
  let number ← (BrowserCall.newPage context).make
  unless o.browser.isCacheEnabled do
    (BrowserCall.openDevtools number).make
    (BrowserCall.disableCache number).make
  unless o.blockRequests.isEmpty do
    (BrowserCall.intercept number o.blockRequests).make
  if o.printBrowserConsole then
    (BrowserCall.listen number "console").make.total
    (BrowserCall.listen number "pageerror").make.total
  return ⟨context, number⟩

/-- Opens a page in a context of its own. If the browser fails to, the context is closed. -/
def openOnce (o : RunOptions) : Action Fault Page := do
  let context ← (BrowserCall.newContext (.ofOptions o)).make
  tryCatch (prepare o context) fun fault => do
    if fault.isOfBrowser then
      (BrowserCall.closeContext context).make.quietly
    throw fault

/-- Opens a page, in several attempts if need be. -/
def openPage (o : RunOptions) : Action PageError Page :=
  Action.rephrase (PageError.ofFault .noPage) <| ExceptT.mk <|
    retry Fault.isOfBrowser ((fun _ => ()) <$> BrowserCall.pause.make.run) (openOnce o).run
      o.pageAcquireAttempts.1

/-- Closes a page and its context; that the browser fails to is no error. -/
def close (page : Page) : Action PageError Unit :=
  (BrowserCall.closeContext page.context).make.quietly.rephrase .passed

/-- Shows an address: that of a site, or a file of the project. -/
def navigate (o : RunOptions) (page : Page) (url : String) : Action PageError Unit :=
  match Url.isLocal url with
  | .error cause => throw (.address cause)
  | .ok true => do
    let path := Url.localPath o.projectRoot url
    let html ← (BrowserCall.fileText path).make.rephrase (PageError.ofFileFault url path)
    (BrowserCall.setContent page.number html o.timeout.1).make.rephrase
      (.ofFault (.navigation url))
  | .ok false =>
    (BrowserCall.goto page.number url o.timeout.1).make.rephrase (.ofFault (.navigation url))

/-- Stops all loading after a while and waits until the page is idle. -/
def awaitRest (o : RunOptions) (page : Page) : Action Fault Unit := do
  (BrowserCall.stopLoading page.number o.pageLoadTimeout.1).make
  (BrowserCall.awaitIdle page.number o.pageLoadTimeout.1).make

/-- Lets a page come to rest. One that is still busy after a while is taken as it is. -/
def comeToRest (o : RunOptions) (page : Page) : Action PageError Unit :=
  let patient := tryCatch (awaitRest o page) fun
    | .timeout _ => pure ()
    | fault => throw fault
  patient.rephrase (.ofFault .unsettled)

/-- Lets a page come to rest, and gives it a moment more. -/
def settle (o : RunOptions) (page : Page) : Action PageError Unit := do
  comeToRest o page
  unless o.pageRenderDelay = 0 do
    (BrowserCall.delay page.number o.pageRenderDelay).make.rephrase .passed

/-- Where the screenshot of a page goes. -/
def screenshotPath (o : RunOptions) (url : String) : FilePath :=
  (FilePath.ofText o.screenshotPath).join (.ofText (Url.screenshotName url))

def screenshot (o : RunOptions) (page : Page) (url : String) : Action PageError FilePath := do
  let path := screenshotPath o url
  (BrowserCall.screenshot page.number path).make.rephrase (.ofFault (.noScreenshot url))
  return path

/-- The answers of a measurement, each taken as yes or no. -/
def verdicts (answers : Json) : Except PageError (List Bool) :=
  if answers.truth then
    match answers with
    | .arr items => .ok (items.map Json.truth)
    | .obj members => .ok (members.map fun member => (Json.str member.1).truth)
    | .str s => .ok (s.toList.map fun _ => true)
    | j => .error (.notIterable j.typeName)
  else .ok []

/-- Measures which selectors are critical on a page. -/
def probe (page : Page) (selectors : List String) : Action PageError (List Bool) := do
  let answers ← (BrowserCall.probe page.number selectors).make.rephrase
    (.ofFault .noMeasurement)
  liftExcept (verdicts answers)
where
  /-- A result that needs no call. -/
  liftExcept {α : Type} (r : Except PageError α) : Action PageError α :=
    ExceptT.mk (pure r)

/-- The text of all stylesheets that an address loads. -/
def collectStylesheets (o : RunOptions) (url : String) : Action PageError String := do
  let page ← openPage o
  Action.ending (close page) do
    navigate o page url
    let css ← (BrowserCall.liveCss page.number).make.rephrase (.ofFault (.noStylesheets url))
    return css.getD ""

end Page

end CriticalCss
