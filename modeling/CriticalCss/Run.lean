import CriticalCss.Assembly
import CriticalCss.Browser.Session
import CriticalCss.Dialogue.Pool
import CriticalCss.Extraction

/-!
# A run

A run gets the stylesheet, asks every page for its critical selectors, a few pages at a time, and
puts the pages together. A page that fails is reported and does not keep the others from being
evaluated; the run fails if no page is left, or if nothing on them is critical. However it ends,
the browser is closed.
-/

namespace CriticalCss

/-- A page that could not be evaluated. -/
structure UrlFailure where
  url : String
  cause : PageError
deriving DecidableEq, Repr

/-- Name and wording of the cause. -/
def UrlFailure.message (failure : UrlFailure) : String :=
  failure.cause.label ++ ": " ++ failure.cause.message

/-- Why a run fails. -/
inductive RunError where
  | session (cause : SessionError)
  /-- The stylesheets of the first page cannot be read. -/
  | noStylesheets (url : String) (cause : PageError)
  | unreadable (path : FilePath) (fault : FileFault)
  | blank (path : FilePath)
  | noPage (failures : List UrlFailure)
  | nothingCritical (failures : List UrlFailure)
  | assembly (cause : AssemblyError)
  /-- Something that has no name among the errors of a run. -/
  | passed (cause : PageError)
deriving DecidableEq, Repr

namespace RunError

def message : RunError → String
  | session cause => cause.message
  | noStylesheets url cause =>
    "Could not read the stylesheets of " ++ url ++ ": " ++ cause.message
  | unreadable path fault =>
    "Error while reading css file " ++ path.toText ++ ": " ++ fault.message path
  | blank path => "No CSS content in " ++ path.toText
  | noPage _ => "Could not extract critical CSS from any URL"
  | nothingCritical _ => "No critical CSS was found on any URL"
  | assembly cause => cause.message
  | passed cause => cause.message

/-- The name of an error, as reports show it. -/
def label : RunError → String
  | session (.passed fault) => fault.label
  | session _ | noStylesheets _ _ | unreadable _ _ | blank _ => "SetupError"
  | noPage _ | nothingCritical _ => "ExtractionError"
  | assembly (.fold _) => "AggregationError"
  | assembly (.oversized _) => "ValueError"
  | passed cause => cause.label

/-- The pages that failed before the run did. -/
def failures? : RunError → Option (List UrlFailure)
  | noPage failures | nothingCritical failures => some failures
  | _ => none

end RunError

/-- What a run gives. -/
structure RunResult where
  output : Output
  failures : List UrlFailure
deriving DecidableEq, Repr

namespace Run

/-! ## The stylesheet -/

/-- The options give the name of a stylesheet's file, and not a stylesheet. -/
def namesFile (css : String) : Bool :=
  ".css".toList.isSuffixOf ((Text.trimmed css).toList.map Char.toLower)

/-- The path of a stylesheet's file; relative ones start at the root of the project. -/
def cssPath (o : RunOptions) (css : String) : FilePath :=
  (FilePath.ofText o.projectRoot).join (.ofText (Text.trimmed css))

/-- The error that the file of the stylesheet makes. -/
def fileError (path : FilePath) (fault : FileFault) : RunError :=
  match fault.foreignName? with
  | none => .unreadable path fault
  | some name => .passed (.passed (.other name (fault.message path)))

/-- The error that the stylesheets of the first page make. -/
def stylesheetsError (url : String) (cause : PageError) : RunError :=
  if cause.kind?.isSome then .noStylesheets url cause else .passed cause

/-- The text of the stylesheet: the stylesheets of the first page, a file, or given as such. -/
def cssText (o : RunOptions) (s : Session) : Action RunError String :=
  match o.css with
  | none => (s.collectStylesheets o o.firstUrl).rephrase (stylesheetsError o.firstUrl)
  | some css =>
    if namesFile css then do
      let path := cssPath o css
      let text ← (BrowserCall.fileText path).make.rephrase (fileError path)
      if Text.isBlankText text.toList then throw (.blank path) else return text
    else return css

/-- The stylesheet of a text; one that cannot be parsed counts as empty. -/
def sheetOfText (css : String) : Stylesheet :=
  match Stylesheet.parse css with
  | .ok sheet => sheet
  | .error _ => []

/-! ## The pages -/

/-- The wishes for selectors in the options. -/
def wishes (o : RunOptions) : Selector.Wishes :=
  ⟨o.keepSelectors, o.removeSelectors⟩

/-- The selector map of a stylesheet on an open page. -/
def measure (o : RunOptions) (sheet : Stylesheet) (url : String) (page : Page) :
    Action PageError SelectorMap := do
  page.navigate o url
  page.settle o
  if o.takeScreenshots then
    let _ ← page.screenshot o url
  extract (wishes o) page.probe sheet

def evaluate (o : RunOptions) (s : Session) (sheet : Stylesheet) (url : String) :
    Action PageError PageResult := do
  let page ← s.openPage o
  let map ← Action.ending page.close (measure o sheet url page)
  let parts := sheet.partition o.dropKeyframes map
  return ⟨url, parts.1, parts.2⟩

/-- Evaluates a page, and reports a failure as such. -/
def attempt (o : RunOptions) (s : Session) (sheet : Stylesheet) (url : String) :
    Talk (Except UrlFailure PageResult) := do
  match ← (evaluate o s sheet url).run with
  | .ok page => return .ok page
  | .error cause => return .error ⟨url, cause⟩

/-- The pages that were evaluated, in order. -/
def succeeded (outcomes : List (Except UrlFailure PageResult)) : List PageResult :=
  outcomes.filterMap fun
    | .ok page => some page
    | .error _ => none

/-- The pages that failed, in order. -/
def failed (outcomes : List (Except UrlFailure PageResult)) : List UrlFailure :=
  outcomes.filterMap fun
    | .ok _ => none
    | .error failure => some failure

def evaluateAll (d : Pool.Discipline BrowserCall) (o : RunOptions) (s : Session)
    (sheet : Stylesheet) : Talk (List (Except UrlFailure PageResult)) :=
  Pool.gather d (o.urls.map (attempt o s sheet))

/-! ## The whole -/

/-- How the options of a run are put together again. -/
def assemblyOptions (o : RunOptions) : AssemblyOptions :=
  ⟨o.removeSelectors, o.outputRemainingCss⟩

/-- What a run gives for the outcomes of its pages. -/
def conclude (o : RunOptions) (outcomes : List (Except UrlFailure PageResult)) :
    Except RunError RunResult :=
  if (succeeded outcomes).isEmpty then .error (.noPage (failed outcomes))
  else
    match assemble (assemblyOptions o) (succeeded outcomes) with
    | .error cause => .error (.assembly cause)
    | .ok output =>
      if output.critical = "" then .error (.nothingCritical (failed outcomes))
      else .ok ⟨output, failed outcomes⟩

/-- What is done while the browser is running. -/
def body (d : Pool.Discipline BrowserCall) (o : RunOptions) (s : Session) :
    Action RunError (List (Except UrlFailure PageResult)) := do
  let css ← cssText o s
  ExceptT.lift (evaluateAll d o s (sheetOfText css))

/-- The error with which a run passes on a fault of the browser's end. -/
def closingError (fault : Fault) : RunError :=
  .session (.passed fault)

/-- A run that shares its time as `d` says. -/
def under (d : Pool.Discipline BrowserCall) (o : RunOptions) :
    Talk (Except RunError RunResult) := do
  match ← Session.idle.launch o.browser with
  | (.error cause, _) => return .error (.session cause)
  | (.ok (), s) =>
    let outcomes ← (body d o s).run
    match ← s.close with
    | (.error fault, _) => return .error (closingError fault)
    | (.ok (), _) => return outcomes.bind (conclude o)

/-- The discipline of a run: as many pages at a time as the options allow, each going on as soon
as it can. -/
def discipline (o : RunOptions) : Pool.Discipline BrowserCall :=
  Pool.inOrder (o.browser.concurrentTabs.map (·.1)) BrowserCall.duration

end Run

/-- Carries out a run. -/
def run (o : RunOptions) : Talk (Except RunError RunResult) :=
  Run.under (Run.discipline o) o

end CriticalCss
