import CriticalCss.Dialogue.Basic
import CriticalCss.File.Tree
import CriticalCss.Options.Run

/-!
# Calls on a browser

What a run asks of the world: calls on a browser, the text of a file, and a pause. A context is a
browser of its own inside the browser, with its own look and its own cache; each page is opened in
a context of its own. Nearly every call can fail, and the browser says so with an error or a
timeout.
-/

namespace CriticalCss

/-- Why a call failed. -/
inductive Fault where
  /-- The browser reports an error. -/
  | error (text : String)
  /-- The browser did not answer in time. -/
  | timeout (text : String)
  /-- Something that is no business of the browser. -/
  | other (label text : String)
deriving DecidableEq, Repr

namespace Fault

/-- The browser reports the fault. -/
def isOfBrowser : Fault → Bool
  | other _ _ => false
  | _ => true

def message : Fault → String
  | error text | timeout text | other _ text => text

/-- The kind of fault, as messages show it. -/
def label : Fault → String
  | error _ => "Error"
  | timeout _ => "TimeoutError"
  | other label _ => label

end Fault

/-- How a context presents itself to the pages in it. -/
structure ContextLook where
  viewport : Viewport
  scaleFactor : Float
  isMobile : Bool
  hasTouch : Bool
  userAgent : String
  isJsEnabled : Bool
deriving DecidableEq, Repr

/-- The look that the options of a run ask for. -/
def ContextLook.ofOptions (o : RunOptions) : ContextLook where
  viewport := o.device.viewport
  scaleFactor := o.device.scaleFactor
  isMobile := o.device.isMobile
  hasTouch := o.device.hasTouch
  userAgent := o.browser.userAgent
  isJsEnabled := o.browser.isJsEnabled

/-- One call. Contexts and pages are known by numbers, times are in milliseconds. -/
inductive BrowserCall where
  | start
  | launch (headless : Bool) (executablePath : Option String)
  | newContext (look : ContextLook)
  | newPage (context : Nat)
  | openDevtools (page : Nat)
  | disableCache (page : Nat)
  | intercept (page : Nat) (blocked : List String)
  | listen (page : Nat) (event : String)
  | goto (page : Nat) (url : String) (timeout : Nat)
  | setContent (page : Nat) (html : String) (timeout : Nat)
  | stopLoading (page : Nat) (after : Nat)
  | awaitIdle (page : Nat) (timeout : Nat)
  | delay (page : Nat) (time : Nat)
  | screenshot (page : Nat) (path : FilePath)
  /-- For each selector, does an element that it matches start above the fold? -/
  | probe (page : Nat) (selectors : List String)
  /-- The text of all stylesheets of a page that can be read. -/
  | liveCss (page : Nat)
  | closeContext (context : Nat)
  | closeBrowser
  | stop
  | fileText (path : FilePath)
  /-- A moment before an operation is tried again. -/
  | pause
deriving DecidableEq, Repr

namespace BrowserCall

/-- What a call fails with: nothing where it cannot fail. -/
@[reducible] def Failure : BrowserCall → Type
  | fileText _ => FileFault
  | listen _ _ | pause => Empty
  | _ => Fault

/-- What a call gives if it does not fail. -/
@[reducible] def Value : BrowserCall → Type
  | newContext _ | newPage _ => Nat
  | probe _ _ => Json
  | liveCss _ => Option String
  | fileText _ => String
  | _ => Unit

@[reducible] def Answer (c : BrowserCall) : Type :=
  Except c.Failure c.Value

/-- How long the answer takes, in ticks of which a pause has many: files are read beside the other
work, and everything else is taken to be answered at once. -/
def duration : BrowserCall → Nat
  | fileText _ => 1
  | pause => 1000
  | _ => 0

end BrowserCall

/-- A program that calls a browser. -/
abbrev Talk : Type → Type :=
  Dialogue BrowserCall BrowserCall.Answer

/-- A program that calls a browser and may fail. -/
abbrev Action (ε α : Type) : Type :=
  ExceptT ε Talk α

def BrowserCall.make (c : BrowserCall) : Action c.Failure c.Value :=
  ExceptT.mk (Dialogue.query c)

namespace Action

variable {ε ε' α : Type}

/-- The action with its errors in other terms. -/
def rephrase (f : ε → ε') (x : Action ε α) : Action ε' α :=
  ExceptT.adapt f x

/-- The action, which cannot fail, among others. -/
def total (x : Action Empty α) : Action ε α :=
  x.rephrase nofun

/-- The action, whose failure counts as success if the browser reports it. -/
def quietly (x : Action Fault Unit) : Action Fault Unit :=
  tryCatch x fun fault => if fault.isOfBrowser then pure () else throw fault

/-- Does `body`, and in any case `cleanup` after it; what the cleanup fails with counts more. -/
def ending (cleanup : Action ε Unit) (body : Action ε α) : Action ε α :=
  ExceptT.mk do
    let outcome ← body.run
    match ← cleanup.run with
    | .ok () => return outcome
    | .error e => return .error e

end Action

end CriticalCss
