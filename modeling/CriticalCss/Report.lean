import CriticalCss.Options.Request
import CriticalCss.Run

/-!
# Reports on requests

A request is carried out by a run, and answered with a report: both texts, what to write into a
page so that the rest of the stylesheet is loaded after it is shown, and the pages that failed.
-/

namespace CriticalCss

/-- What to write into a page so that the rest of a stylesheet is loaded late. -/
structure Deferral where
  description : String
  snippet : String
deriving DecidableEq, Repr

namespace Deferral

/-- A character inside a quoted attribute of a page. -/
def escapeChar : Char → List Char
  | '&' => "&amp;".toList
  | '<' => "&lt;".toList
  | '>' => "&gt;".toList
  | '"' => "&quot;".toList
  | '\'' => "&#x27;".toList
  | c => [c]

/-- A text inside a quoted attribute of a page. -/
def escaped (text : String) : String :=
  String.ofList (text.toList.flatMap escapeChar)

/-- The address of the rest of a template's stylesheet. -/
def address (template : String) : String :=
  "/static/" ++ template ++ ".rest.css"

/-- The deferral of the rest of a template's stylesheet. -/
def ofTemplate (template : String) : Deferral where
  description := "Inline critical_css in <head>, serve rest_css as a stylesheet and load it " ++
    "without blocking render."
  snippet :=
    let href := escaped (address template)
    "<link rel=\"preload\" href=\"" ++ href ++ "\" as=\"style\" " ++
      "onload=\"this.onload=null;this.rel='stylesheet'\">" ++
      "<noscript><link rel=\"stylesheet\" href=\"" ++ href ++ "\"></noscript>"

def toJson (d : Deferral) : Json :=
  .obj [("description", .str d.description), ("snippet", .str d.snippet)]

end Deferral

/-- The answer to a request. -/
structure Report where
  criticalCss : String
  restCss : String
  deferral : Option Deferral
  device : Viewport
  failures : List UrlFailure
deriving DecidableEq, Repr

namespace Report

/-- The report on a run; without a rest there is nothing to load late. -/
def ofRun (template : String) (device : Viewport) (result : RunResult) : Report where
  criticalCss := result.output.critical
  restCss := result.output.rest
  deferral := if result.output.rest = "" then none else some (.ofTemplate template)
  device := device
  failures := result.failures

def toJson (r : Report) : Json :=
  .obj [("critical_css", .str r.criticalCss), ("rest_css", .str r.restCss),
    ("defer_instructions", r.deferral.elim .null Deferral.toJson),
    ("device", r.device.toJson),
    ("failed_urls", .arr (r.failures.map fun failure =>
      .obj [("url", .str failure.url), ("error", .str failure.message)]))]

end Report

/-- Why there is no report. -/
inductive RequestError where
  /-- The fields are not those of a request, and a text says what is wrong with them. -/
  | invalid (problems : List Problem) (text : String)
  | options (cause : OptionsError)
  | run (cause : RunError)
deriving DecidableEq, Repr

def RequestError.message : RequestError → String
  | invalid _ text => text
  | options cause => cause.message
  | run cause => cause.message

/-- Carries out a request. -/
def Request.carryOut (r : Request) : Talk (Except RequestError Report) :=
  match r.options with
  | .error cause => return .error (.options cause)
  | .ok o => do
    match ← CriticalCss.run o with
    | .error cause => return .error (.run cause)
    | .ok result => return .ok (.ofRun r.template o.device.viewport result)

end CriticalCss
