import CriticalCss.Css.Component
import CriticalCss.Css.Diagnostic
import CriticalCss.Css.Node

/-!
# Entries of a block of declarations

The declarations that the content of a block falls into at its semicolons. Whatever an entry
begins with decides what it is: an at-keyword begins an at-rule, a name a declaration, and
anything else is a fault. `!important` at the end of a value is cut off and noted.
-/

namespace CriticalCss.Css

/-- An entry of a block of declarations. -/
inductive Entry where
  | declaration (position : Position) (name : List Char) (value : List Component)
      (important : Bool)
  | atRule (position : Position) (keyword : List Char)
  | invalid (position : Position) (fault : Fault)
deriving Repr

namespace Entry

/-- How much of `!important` stands at the end of what was read of a value: nothing, the
exclamation mark, or all of it. With the mark goes the count of components before it. -/
inductive Importance where
  | plain
  | mark (before : Nat)
  | important (before : Nat)
deriving DecidableEq, Repr

/-- What is known of a value while it is read. -/
structure Progress where
  /-- The components read so far. -/
  count : Nat
  importance : Importance
  /-- Something other than white space, comments and the mark of `!important` was read. -/
  occupied : Bool
  /-- A block in curly brackets was read behind something else. -/
  block : Bool
deriving DecidableEq, Repr

/-- Takes note of one component of a value. -/
def Progress.step (s : Progress) (c : Component) : Progress :=
  let s' := { s with count := s.count + 1 }
  match s.importance, c with
  | .plain, .token _ (.literal ['!']) => { s' with importance := .mark s.count }
  | .mark before, .token _ (.ident name) =>
    if name.map Char.toLower == "important".toList then
      { s' with importance := .important before }
    else { s' with importance := .plain, occupied := true }
  | _, _ =>
    if c.isSignificant then
      { s' with
        importance := .plain
        occupied := true
        block := s.block || (c.curly?.isSome && s.occupied) }
    else s'

/-- What is known of a whole value. -/
def Progress.ofValue (value : List Component) : Progress :=
  value.foldl step ⟨0, .plain, false, false⟩

/-- The declaration that begins with `first` and ends with `rest`. -/
def ofParts (first : Component) (rest : List Component) : Entry :=
  match first with
  | .token p (.ident name) =>
    match rest.dropWhile fun c => !c.isSignificant with
    | [] => .invalid p .noColon
    | colon :: value =>
      if colon.isLiteral [':'] then
        let read := Progress.ofValue value
        if read.block then .invalid colon.position .blockInValue
        else
          match read.importance with
          | .important before => .declaration p name (value.take before) true
          | _ => .declaration p name value false
      else .invalid colon.position .notColon
  | _ => .invalid first.position (.noName first.kind)

/-- The components up to a semicolon, and those behind it. -/
def spanSemicolon : List Component → List Component × List Component
  | [] => ([], [])
  | c :: rest =>
    if c.isLiteral [';'] then ([], rest)
    else
      let span := spanSemicolon rest
      (c :: span.1, span.2)

theorem length_spanSemicolon_le (cs : List Component) :
    (spanSemicolon cs).2.length ≤ cs.length := by
  induction cs with
  | nil => simp [spanSemicolon]
  | cons c rest ih =>
    simp only [spanSemicolon]
    split
    · simp
    · simp
      omega

/-- The entries of a block. -/
def ofBlock : List Component → List Entry
  | [] => []
  | c :: rest =>
    if !c.isSignificant || c.isLiteral [';'] then ofBlock rest
    else
      match c with
      | .token p (.atKeyword keyword) =>
        .atRule p keyword :: ofBlock (Node.spanAtRule rest).2.2
      | _ => ofParts c (spanSemicolon rest).1 :: ofBlock (spanSemicolon rest).2
termination_by cs => cs.length
decreasing_by
  · simp
  · have := Node.length_spanAtRule_le rest
    simp
    omega
  · have := length_spanSemicolon_le rest
    simp
    omega

end Entry

end CriticalCss.Css
