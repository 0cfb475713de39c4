import CriticalCss.Browser.Call

/-!
# Scripted browsers

A browser that plays back a script, for runs without a real one: it shows no page, but answers
every call as the script says and keeps a record of the calls. What a page answers is found by the
address that is shown in it, or by its text if it is a file.
-/

namespace CriticalCss

/-- How a page answers. -/
structure PageScript where
  gotoError : Option Fault
  settleError : Option Fault
  idleError : Option Fault
  evaluateError : Option Fault
  /-- What a measurement gives, as it is. -/
  answers : Option Json
  /-- Without `answers`, the selectors that match something above the fold. -/
  visible : List String
  liveCss : Option String
  liveCssError : Option Fault
  screenshotError : Option Fault
  closeError : Option Fault
deriving DecidableEq, Repr

/-- A page that nothing is said about: it has no stylesheets, and nothing on it is visible. -/
def PageScript.plain : PageScript where
  gotoError := none
  settleError := none
  idleError := none
  evaluateError := none
  answers := none
  visible := []
  liveCss := none
  liveCssError := none
  screenshotError := none
  closeError := none

/-- How a browser answers. -/
structure BrowserScript where
  launchError : Option Fault
  /-- What goes wrong with the contexts one after another; nothing after the end of the list. -/
  contextErrors : List (Option Fault)
  /-- What goes wrong with the pages one after another. -/
  pageErrors : List (Option Fault)
  pages : List (String × PageScript)
  files : FileTree
deriving DecidableEq, Repr

/-- A page that is open in a scripted browser. -/
structure OpenPage where
  context : Nat
  script : PageScript
deriving DecidableEq, Repr

/-- The state of a scripted browser. -/
structure Playback where
  contextErrors : List (Option Fault)
  pageErrors : List (Option Fault)
  /-- The number of contexts that were opened. -/
  opened : Nat
  /-- The number of calls that closed a context. -/
  closed : Nat
  /-- The pages by their numbers. -/
  pages : List OpenPage
  /-- All calls, the last one first. -/
  record : List BrowserCall
deriving DecidableEq, Repr

namespace BrowserScript

/-- The state before the first call. -/
def start (script : BrowserScript) : Playback where
  contextErrors := script.contextErrors
  pageErrors := script.pageErrors
  opened := 0
  closed := 0
  pages := []
  record := []

/-- The script of the page with an address or a text. -/
def pageScript (script : BrowserScript) (key : String) : PageScript :=
  (script.pages.lookup key).getD .plain

end BrowserScript

namespace Playback

/-- The script of an open page. -/
def scriptOf (s : Playback) (page : Nat) : PageScript :=
  (s.pages[page]?.map (·.script)).getD .plain

/-- The script of the page that is open in a context. -/
def scriptIn (s : Playback) (context : Nat) : PageScript :=
  ((s.pages.find? (·.context = context)).map (·.script)).getD .plain

/-- Shows something else in a page. -/
def load (s : Playback) (page : Nat) (script : PageScript) : Playback :=
  { s with pages := s.pages.modify page fun page => { page with script } }

/-- A fault as an answer, or else a value. -/
def answer {α : Type} (fault : Option Fault) (value : α) : Except Fault α :=
  match fault with
  | some fault => .error fault
  | none => .ok value

/-- What a measurement gives. -/
def measurement (script : PageScript) (selectors : List String) : Json :=
  script.answers.getD (.arr (selectors.map fun s => .bool (script.visible.contains s)))

/-- The answer to a new context. -/
def openContext (s : Playback) : Except Fault Nat × Playback :=
  let rest := { s with contextErrors := s.contextErrors.drop 1 }
  match s.contextErrors.head?.join with
  | some fault => (.error fault, rest)
  | none => (.ok s.opened, { rest with opened := s.opened + 1 })

/-- The answer to a new page in a context. -/
def openPage (s : Playback) (context : Nat) : Except Fault Nat × Playback :=
  let rest := { s with pageErrors := s.pageErrors.drop 1 }
  match s.pageErrors.head?.join with
  | some fault => (.error fault, rest)
  | none => (.ok s.pages.length, { rest with pages := s.pages ++ [⟨context, .plain⟩] })

/-- The answer to showing something in a page. -/
def present (s : Playback) (page : Nat) (script : PageScript) : Except Fault Unit × Playback :=
  (answer script.gotoError (), s.load page script)

/-- The answer to a call, apart from the record. -/
def react (script : BrowserScript) : (c : BrowserCall) → Playback → c.Answer × Playback
  | .launch _ _, s => (answer script.launchError (), s)
  | .newContext _, s => s.openContext
  | .newPage context, s => s.openPage context
  | .goto page url _, s => s.present page (script.pageScript url)
  | .setContent page html _, s => s.present page (script.pageScript html)
  | .stopLoading page _, s => (answer (s.scriptOf page).settleError (), s)
  | .awaitIdle page _, s => (answer (s.scriptOf page).idleError (), s)
  | .screenshot page _, s => (answer (s.scriptOf page).screenshotError (), s)
  | .probe page selectors, s =>
    (answer (s.scriptOf page).evaluateError (measurement (s.scriptOf page) selectors), s)
  | .liveCss page, s => (answer (s.scriptOf page).liveCssError (s.scriptOf page).liveCss, s)
  | .closeContext context, s =>
    (answer (s.scriptIn context).closeError (), { s with closed := s.closed + 1 })
  | .fileText path, s => (script.files.read path, s)
  | .start, s | .openDevtools _, s | .disableCache _, s | .intercept _ _, s | .listen _ _, s
  | .delay _ _, s | .closeBrowser, s | .stop, s | .pause, s => (.ok (), s)

/-- The answer to a call, which is put on record before. -/
def respond (script : BrowserScript) (c : BrowserCall) (s : Playback) : c.Answer × Playback :=
  react script c { s with record := c :: s.record }

def calls (s : Playback) : List BrowserCall :=
  s.record.reverse

end Playback

/-- Plays a program against a scripted browser. -/
def Talk.play {α : Type} (script : BrowserScript) (x : Talk α) (s : Playback) : α × Playback :=
  x.run (Playback.respond script) s

end CriticalCss
