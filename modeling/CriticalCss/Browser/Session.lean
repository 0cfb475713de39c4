import CriticalCss.Browser.Page

/-!
# The browser of a run

One browser serves a whole run. It is started once, and whatever of it is running is closed at the
end: first the browser, then what drives it.
-/

namespace CriticalCss

/-- What is running. -/
structure Session where
  /-- What drives the browser is started. -/
  started : Bool
  /-- The browser is launched. -/
  launched : Bool
deriving DecidableEq, Repr

/-- Why there is no browser. -/
inductive SessionError where
  | notLaunched (fault : Fault)
  | passed (fault : Fault)
deriving DecidableEq, Repr

def SessionError.message : SessionError → String
  | notLaunched fault => "Browser could not be launched: " ++ fault.message
  | passed fault => fault.message

namespace Session

/-- Nothing is running. -/
def idle : Session where
  started := false
  launched := false

/-- Closes what is running. That the browser fails to is no error; a fault of another kind leaves
the rest running. -/
def close (s : Session) : Talk (Except Fault Unit × Session) := do
  let browser ← if s.launched then BrowserCall.closeBrowser.make.quietly.run else pure (.ok ())
  match browser with
  | .error fault => return (.error fault, s)
  | .ok () =>
    let s := { s with launched := false }
    let driver ← if s.started then BrowserCall.stop.make.quietly.run else pure (.ok ())
    match driver with
    | .error fault => return (.error fault, s)
    | .ok () => return (.ok (), { s with started := false })

/-- Closes what is running after a failed launch. -/
def abandon (fault : Fault) (s : Session) : Talk (Except SessionError Unit × Session) := do
  if fault.isOfBrowser then
    match ← s.close with
    | (.ok (), s) => return (.error (.notLaunched fault), s)
    | (.error fault, s) => return (.error (.passed fault), s)
  else return (.error (.passed fault), s)

/-- Launches the browser. If the browser fails to, nothing is left running. -/
def launch (o : BrowserOptions) (s : Session) : Talk (Except SessionError Unit × Session) := do
  match ← BrowserCall.start.make.run with
  | .error fault => s.abandon fault
  | .ok () =>
    let s := { s with started := true }
    match ← (BrowserCall.launch o.headless o.executablePath).make.run with
    | .error fault => s.abandon fault
    | .ok () => return (.ok (), { s with launched := true })

/-- Opens a page in the browser, if it is running. -/
def openPage (o : RunOptions) (s : Session) : Action PageError Page :=
  if s.launched then Page.openPage o else throw .notRunning

/-- The text of all stylesheets that an address loads in the browser. -/
def collectStylesheets (o : RunOptions) (s : Session) (url : String) :
    Action PageError String := do
  if s.launched then Page.collectStylesheets o url else throw .notRunning

end Session

end CriticalCss
