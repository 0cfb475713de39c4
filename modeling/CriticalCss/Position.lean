/-!
# Places in a text

Lines and columns count from one; a column counts code points.
-/

namespace CriticalCss

/-- A place in a text. -/
structure Position where
  line : Nat
  column : Nat
deriving DecidableEq, Repr

namespace Position

/-- The first place of a text. -/
def start : Position := ⟨1, 1⟩

/-- The place behind one character. -/
def step (p : Position) (c : Char) : Position :=
  if c = '\n' then ⟨p.line + 1, 1⟩ else ⟨p.line, p.column + 1⟩

/-- The place behind a text that begins at `p`. -/
def after (p : Position) (cs : List Char) : Position :=
  cs.foldl step p

/-- A place as messages show it. -/
def text (p : Position) : String :=
  s!"{p.line}:{p.column}"

end Position

end CriticalCss
