import CriticalCss.Number.Shortest
import CriticalCss.Options.Browser
import CriticalCss.Options.Device

/-!
# Options of a run

Everything that a run needs to know. Options are read from an object whose fields may be left
out, apart from the list of pages; all problems of an object are reported together.
-/

namespace CriticalCss

/-- Everything that a run needs to know. -/
structure RunOptions where
  /-- The stylesheet as text, or the path of its file. Without it the stylesheets of the first
  page are taken. -/
  css : Option String
  firstUrl : String
  otherUrls : List String
  /-- How long a page may take to load, in milliseconds. -/
  timeout : Positive
  /-- How long a page may take to come to rest, in milliseconds. -/
  pageLoadTimeout : Positive
  /-- How long to wait before a page is measured, in milliseconds. -/
  pageRenderDelay : Nat
  device : DeviceOptions
  browser : BrowserOptions
  keepSelectors : List String
  removeSelectors : List String
  dropKeyframes : Bool
  outputRemainingCss : Bool
  /-- Requests for addresses that contain one of these texts are not made. -/
  blockRequests : List String
  takeScreenshots : Bool
  screenshotPath : String
  printBrowserConsole : Bool
  projectRoot : String
  /-- How often to try for a page. -/
  pageAcquireAttempts : Positive
deriving DecidableEq, Repr

/-- Why options cannot be used. -/
inductive OptionsError where
  | invalid (problems : List Problem)
  /-- A value without members. -/
  | notIterable (typeName : String)
  /-- An item of a list that is no pair. -/
  | notPair (index : Nat)
  /-- An item of a list with the wrong number of parts. -/
  | wrongLength (index length : Nat)
  /-- A pair whose first part can be no key at all. -/
  | unhashable (typeName : String)
deriving DecidableEq, Repr

namespace OptionsError

/-- What is wrong with a value that has no members. -/
def reason : OptionsError → String
  | invalid problems => "; ".intercalate (problems.map Problem.message)
  | notIterable typeName => "'" ++ typeName ++ "' object is not iterable"
  | notPair index =>
    "cannot convert dictionary update sequence element #" ++ toString index ++ " to a sequence"
  | wrongLength index length =>
    "dictionary update sequence element #" ++ toString index ++ " has length " ++
      toString length ++ "; 2 is required"
  | unhashable typeName => "unhashable type: '" ++ typeName ++ "'"

def problems : OptionsError → List String
  | invalid problems => problems.map Problem.message
  | e => [e.reason]

def message (e : OptionsError) : String :=
  "Invalid crittr options: " ++ e.reason

end OptionsError

namespace RunOptions

def urls (o : RunOptions) : List String :=
  o.firstUrl :: o.otherUrls

/-- The addresses that are blocked if nothing else is asked for: maps, statistics and
advertising. -/
def standardBlocks : List String :=
  ["maps.gstatic.com", "maps.googleapis.com", "googletagmanager.com", "google-analytics.com",
    "google.", "googleadservices.com", "generaltracking.de", "bing.com", "doubleclick.net"]

/-! ## Reading -/

/-- The names of the fields. -/
def cssName : FieldName := .plain "css"
@[inherit_doc cssName] def urlsName : FieldName := .plain "urls"
@[inherit_doc cssName] def timeoutName : FieldName := .plain "timeout"
@[inherit_doc cssName] def pageLoadTimeoutName : FieldName :=
  ⟨"pageLoadTimeout", "page_load_timeout"⟩
@[inherit_doc cssName] def pageRenderDelayName : FieldName :=
  ⟨"pageRenderDelay", "page_render_delay"⟩
@[inherit_doc cssName] def deviceName : FieldName := .plain "device"
@[inherit_doc cssName] def browserName : FieldName := .plain "browser"
@[inherit_doc cssName] def keepSelectorsName : FieldName := ⟨"keepSelectors", "keep_selectors"⟩
@[inherit_doc cssName] def removeSelectorsName : FieldName :=
  ⟨"removeSelectors", "remove_selectors"⟩
@[inherit_doc cssName] def dropKeyframesName : FieldName := ⟨"dropKeyframes", "drop_keyframes"⟩
@[inherit_doc cssName] def outputRemainingCssName : FieldName :=
  ⟨"outputRemainingCss", "output_remaining_css"⟩
@[inherit_doc cssName] def blockRequestsName : FieldName := ⟨"blockRequests", "block_requests"⟩
@[inherit_doc cssName] def takeScreenshotsName : FieldName :=
  ⟨"takeScreenshots", "take_screenshots"⟩
@[inherit_doc cssName] def screenshotPathName : FieldName :=
  ⟨"screenshotPath", "screenshot_path"⟩
@[inherit_doc cssName] def screenshotNameGeneratorName : FieldName :=
  ⟨"screenshotNameGenerator", "screenshot_name_generator"⟩
@[inherit_doc cssName] def printBrowserConsoleName : FieldName :=
  ⟨"printBrowserConsole", "print_browser_console"⟩
@[inherit_doc cssName] def projectRootName : FieldName := ⟨"projectRoot", "project_root"⟩
@[inherit_doc cssName] def pageAcquireAttemptsName : FieldName :=
  ⟨"pageAcquireAttempts", "page_acquire_attempts"⟩

def names : List FieldName :=
  [cssName, urlsName, timeoutName, pageLoadTimeoutName, pageRenderDelayName, deviceName,
    browserName, keepSelectorsName, removeSelectorsName, dropKeyframesName,
    outputRemainingCssName, blockRequestsName, takeScreenshotsName, screenshotPathName,
    screenshotNameGeneratorName, printBrowserConsoleName, projectRootName,
    pageAcquireAttemptsName]

/-- The pages of a run: a list of texts, at least one. -/
def pagesOfJson : Json → Checked (String × List String)
  | .arr [] => .fail .noUrls
  | .arr (first :: others) =>
    (OptionValue.textItems (first :: others)).andThen fun
      | [] => .fail .noUrls
      | url :: rest => .good (url, rest)
  | _ => .fail .urlsNotList

/-- The options with the given fields; the others have their standard values. The field for a
function that names the screenshots exists, but data cannot hold a function. -/
def ofMembers (members : Members) : Checked RunOptions :=
  (fun css pages => mk css pages.1 pages.2)
    <$> members.optional cssName (OptionValue.optional (OptionValue.strictText "css")) none
    <*> members.required urlsName pagesOfJson
    <*> members.optional timeoutName OptionValue.positive 30000
    <*> members.optional pageLoadTimeoutName OptionValue.positive 2000
    <*> members.optional pageRenderDelayName OptionValue.natural 250
    <*> members.optional deviceName DeviceOptions.ofJson .standard
    <*> members.optional browserName BrowserOptions.ofJson .standard
    <*> members.optional keepSelectorsName OptionValue.texts []
    <*> members.optional removeSelectorsName OptionValue.texts []
    <*> members.optional dropKeyframesName OptionValue.flag true
    <*> members.optional outputRemainingCssName OptionValue.flag true
    <*> members.optional blockRequestsName OptionValue.texts standardBlocks
    <*> members.optional takeScreenshotsName OptionValue.flag false
    <*> members.optional screenshotPathName (OptionValue.strictText "screenshot_path") "."
    <* members.forbidden screenshotNameGeneratorName .notFunction
    <*> members.optional printBrowserConsoleName OptionValue.flag false
    <*> members.optional projectRootName OptionValue.text "/project"
    <*> members.optional pageAcquireAttemptsName OptionValue.positive 3
    <* members.nothingElse names

/-- A key that is no text, as the place of a problem. -/
def keyPlace : Json → String
  | .int n => toString n
  | .bool b => if b then "1" else "0"
  | .float x => String.ofList (Number.text x)
  | _ => "None"

def keyOfJson : Json → Except OptionsError String
  | .str key => .ok key
  | .arr items => .error (.unhashable (Json.arr items).typeName)
  | .obj members => .error (.unhashable (Json.obj members).typeName)
  | j => .error (.invalid [⟨[keyPlace j], .keyNotText⟩])

/-- The pair that the item of a list makes. -/
def pairOfItem (index : Nat) : Json → Except OptionsError (String × Json)
  | .arr [key, value] => return (← keyOfJson key, value)
  | .arr items => .error (.wrongLength index items.length)
  | .str s =>
    match s.toList with
    | [key, value] => .ok (key.toString, .str value.toString)
    | cs => .error (.wrongLength index cs.length)
  | .obj [(key, _), (value, _)] => .ok (key, .str value)
  | .obj members => .error (.wrongLength index members.length)
  | _ => .error (.notPair index)

/-- The members of an object from its pairs; of equal keys the last counts. -/
def membersOfItems : Nat → List Json → Members → Except OptionsError Members
  | _, [], members => .ok members
  | index, item :: rest, members => do
    let (key, value) ← pairOfItem index item
    membersOfItems (index + 1) rest (Json.setMember key value members)

/-- The members that a value stands for: those of an object, or the pairs of a list. -/
def membersOfJson : Json → Except OptionsError Members
  | .obj members => .ok members
  | .arr items => membersOfItems 0 items []
  | .str s => membersOfItems 0 (s.toList.map fun c => .str c.toString) []
  | j => .error (.notIterable j.typeName)

/-- The options that a value stands for. -/
def build (j : Json) : Except OptionsError RunOptions := do
  let members ← membersOfJson j
  (ofMembers members).toExcept.mapError .invalid

/-! ## Writing -/

def members (spelling : Spelling) (o : RunOptions) : Members :=
  [(cssName.spelled spelling, .ofOption o.css),
    (urlsName.spelled spelling, .strings o.urls),
    (timeoutName.spelled spelling, .int o.timeout.1),
    (pageLoadTimeoutName.spelled spelling, .int o.pageLoadTimeout.1),
    (pageRenderDelayName.spelled spelling, .int o.pageRenderDelay),
    (deviceName.spelled spelling, .obj (o.device.members spelling)),
    (browserName.spelled spelling, .obj (o.browser.members spelling)),
    (keepSelectorsName.spelled spelling, .strings o.keepSelectors),
    (removeSelectorsName.spelled spelling, .strings o.removeSelectors),
    (dropKeyframesName.spelled spelling, .bool o.dropKeyframes),
    (outputRemainingCssName.spelled spelling, .bool o.outputRemainingCss),
    (blockRequestsName.spelled spelling, .strings o.blockRequests),
    (takeScreenshotsName.spelled spelling, .bool o.takeScreenshots),
    (screenshotPathName.spelled spelling, .str o.screenshotPath),
    (printBrowserConsoleName.spelled spelling, .bool o.printBrowserConsole),
    (projectRootName.spelled spelling, .str o.projectRoot),
    (pageAcquireAttemptsName.spelled spelling, .int o.pageAcquireAttempts.1)]

end RunOptions

end CriticalCss
