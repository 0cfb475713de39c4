import CriticalCss.Css.Entry
import CriticalCss.Css.Printer
import CriticalCss.Stylesheet.Rule
import CriticalCss.Text.Blank

/-!
# Reading a stylesheet

From the nodes of a stylesheet to its rules. What cannot be read is left out and reported as a
diagnostic; `Stylesheet.read` gives both, and `Stylesheet.parseStrict` refuses a text with a
diagnostic. One kind of text cannot be read at all: an integer of more digits than
`maxDigits`.
-/

namespace CriticalCss

open Css

/-- A value with the findings made on the way to it, in order. -/
structure Findings (α : Type) where
  value : α
  diagnostics : List Diagnostic
deriving DecidableEq, Repr

namespace Findings

/-- Reads each item, keeping what gave a rule and all findings. -/
def collect {α β : Type} (f : α → Findings (Option β)) : List α → Findings (List β)
  | [] => ⟨[], []⟩
  | a :: rest =>
    let first := f a
    let others := collect f rest
    ⟨first.value.toList ++ others.value, first.diagnostics ++ others.diagnostics⟩

/-- The findings with the value mapped. -/
def map {α β : Type} (f : α → β) (x : Findings α) : Findings β :=
  ⟨f x.value, x.diagnostics⟩

end Findings

namespace Stylesheet

/-! ## Texts -/

/-- The condition of an at-rule or a selector: its components one by one, trimmed. -/
def conditionText (cs : List Component) : String :=
  String.ofList (Text.trim (textApart cs))

def splitCommas (cs : List Component) : List (List Component) :=
  Text.pieces (·.isLiteral [',']) cs

/-- The selectors of a rule; empty ones are left out. -/
def selectorTexts (prelude : List Component) : List String :=
  ((splitCommas prelude).map conditionText).filter (· ≠ "")

def valueText (value : List Component) (important : Bool) : String :=
  let plain := Text.trim (Css.text value)
  String.ofList (if important then plain ++ " !important".toList else plain)

def lowerText (cs : List Char) : String :=
  String.ofList (cs.map Char.toLower)

/-! ## Rules -/

/-- One entry of a block of declarations; at-rules among them are passed over. -/
def readEntry : Entry → Findings (Option Declaration)
  | .declaration _ name value important =>
    ⟨some ⟨String.ofList name, valueText value important⟩, []⟩
  | .atRule _ _ => ⟨none, []⟩
  | .invalid position fault => ⟨none, [.invalid position fault]⟩

def readDeclarations (content : List Component) : Findings (List Declaration) :=
  Findings.collect readEntry (Entry.ofBlock content)

/-- A style rule; one without selectors is refused, and its block is not looked at. -/
def readStyle (position : Position) (prelude content : List Component) :
    Findings (Option StyleRule) :=
  match selectorTexts prelude with
  | [] => ⟨none, [.missingSelector position]⟩
  | selectors =>
    (readDeclarations content).map fun declarations =>
      some ⟨selectors, declarations, some position⟩

/-- An at-rule that is kept as it was written. -/
def readVerbatim (position : Position) (keyword : List Char) (prelude : List Component)
    (content : Option (List Component)) : AtRule where
  name := String.ofList keyword
  prelude := conditionText prelude
  block := content.map fun cs => String.ofList (Text.trim (Css.text cs))
  position := some position

def readGrouped : Node → Findings (Option Rule)
  | .qualified position prelude content =>
    (readStyle position prelude content).map (·.map .style)
  | .atRule position keyword prelude content =>
    ⟨some (.atRule (readVerbatim position keyword prelude content)), []⟩
  | .invalid position fault => ⟨none, [.invalid position fault]⟩
  | .comment _ _ => ⟨none, []⟩

/-- A keyframe; at-rules between keyframes are passed over. -/
def readFrame : Node → Findings (Option Keyframe)
  | .qualified position prelude content =>
    (readDeclarations content).map fun declarations =>
      some ⟨selectorTexts prelude, declarations, some position⟩
  | .invalid position fault => ⟨none, [.invalid position fault]⟩
  | .atRule _ _ _ _ | .comment _ _ => ⟨none, []⟩

/-- The keywords of keyframes, each with its vendor's mark. -/
def keyframesVendors : List (String × String) :=
  [("keyframes", ""), ("-webkit-keyframes", "-webkit-"), ("-moz-keyframes", "-moz-"),
    ("-o-keyframes", "-o-"), ("-ms-keyframes", "-ms-")]

def readGroup (kind : GroupKind) (position : Position) (prelude : List Component)
    (content : Option (List Component)) : Findings Rule :=
  (Findings.collect readGrouped (Node.ofBlock (content.getD []))).map fun rules =>
    .group kind (conditionText prelude) rules (some position)

/-- An at-rule at the top level. -/
def readAtRule (position : Position) (keyword : List Char) (prelude : List Component)
    (content : Option (List Component)) : Findings Rule :=
  let name := lowerText keyword
  if name = "media" then readGroup .media position prelude content
  else if name = "supports" then readGroup .supports position prelude content
  else if name = "font-face" then
    (readDeclarations (content.getD [])).map fun declarations =>
      .fontFace declarations (some position)
  else if name = "charset" then
    ⟨.charset (conditionText prelude) (some position), []⟩
  else
    match keyframesVendors.lookup name with
    | some vendor =>
      (Findings.collect readFrame (Node.ofBlock (content.getD []))).map fun frames =>
        .keyframes (conditionText prelude) vendor frames (some position)
    | none => ⟨.atRule (readVerbatim position keyword prelude content), []⟩

/-- A rule at the top level. -/
def readNode : Node → Findings (Option Rule)
  | .comment position text => ⟨some (.comment (String.ofList text) (some position)), []⟩
  | .qualified position prelude content =>
    (readStyle position prelude content).map (·.map .style)
  | .atRule position keyword prelude content =>
    (readAtRule position keyword prelude content).map some
  | .invalid position fault => ⟨none, [.invalid position fault]⟩

/-! ## Stylesheets -/

/-- An integer of a stylesheet may have this many digits. -/
def maxDigits : Nat := 4300

/-- The stylesheet holds an integer with too many digits. -/
structure Oversized where
  digits : Nat
deriving DecidableEq, Repr

def Oversized.message (e : Oversized) : String :=
  s!"Exceeds the limit ({maxDigits} digits) for integer string conversion: value has {e.digits} " ++
    "digits; use sys.set_int_max_str_digits() to increase the limit"

/-- The count of digits of a token that begins with too long an integer. A number with a fraction
or an exponent is no integer. -/
def oversized? : Lexeme → Option Oversized
  | .token t => do
    let digits ← t.digits?
    guard (digits.all fun c => c.isDigit || c = '+' || c = '-')
    let count := digits.countP Char.isDigit
    guard (maxDigits < count)
    return ⟨count⟩
  | _ => none

/-- The rules of a stylesheet with the findings on the way. -/
def read (css : String) : Except Oversized (Findings Stylesheet) :=
  match (lex css.toList).findSome? fun (_, lexeme) => oversized? lexeme with
  | some e => .error e
  | none => .ok (Findings.collect readNode (Node.ofSheet (components css.toList)))

/-- The rules of a stylesheet; what cannot be read is left out. -/
def parse (css : String) : Except Oversized Stylesheet :=
  (read css).map (·.value)

/-- Why a stylesheet is refused. -/
inductive ParseError where
  | oversized (cause : Oversized)
  | findings (first : Diagnostic) (others : List Diagnostic)
deriving DecidableEq, Repr

def ParseError.message : ParseError → String
  | oversized cause => cause.message
  | findings first _ => s!"CSS could not be parsed: {first.message}"

/-- The rules of a stylesheet in which nothing was found wrong. -/
def parseStrict (css : String) : Except ParseError Stylesheet :=
  match read css with
  | .error e => .error (.oversized e)
  | .ok ⟨sheet, []⟩ => .ok sheet
  | .ok ⟨_, first :: others⟩ => .error (.findings first others)

end Stylesheet

end CriticalCss
