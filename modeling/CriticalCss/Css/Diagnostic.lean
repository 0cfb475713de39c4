import CriticalCss.Position

/-!
# Diagnostics

What was found wrong in a stylesheet, and where. A fault of the grammar is reported at the place
that shows it; a rule without a selector is reported at its beginning.
-/

namespace CriticalCss.Css

/-- A fault of the grammar. -/
inductive Fault where
  /-- A rule has no block in curly brackets. -/
  | noBlock
  /-- A declaration begins with something else than a name; the kind of what stands there. -/
  | noName (found : String)
  /-- A declaration ends behind its name. -/
  | noColon
  /-- Something else than a colon stands behind the name of a declaration. -/
  | notColon
  /-- The value of a declaration holds a block behind other parts. -/
  | blockInValue
deriving DecidableEq, Repr

def Fault.message : Fault → String
  | noBlock => "EOF reached before \x7b\x7d block for a qualified rule."
  | noName found => s!"Expected <ident> for declaration name, got {found}."
  | noColon => "Expected ':' after declaration name, got EOF"
  | notColon => "Expected ':' after declaration name, got \x7bcolon.type\x7d."
  | blockInValue => "Declaration contains \x7b\x7d block"

/-- A finding about a stylesheet. -/
inductive Diagnostic where
  | invalid (position : Position) (fault : Fault)
  | missingSelector (position : Position)
deriving DecidableEq, Repr

def Diagnostic.message : Diagnostic → String
  | invalid position fault => s!"invalid at {position.text}: {fault.message}"
  | missingSelector position => s!"missing selector at {position.text}"

end CriticalCss.Css
