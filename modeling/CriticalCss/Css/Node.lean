import CriticalCss.Css.Component
import CriticalCss.Css.Diagnostic

/-!
# Nodes of a stylesheet

The rules, at-rules and comments that a list of component values falls into. An at-rule ends at
a semicolon, which belongs to no node, or with its block; any other rule ends with its block.
At the top level of a stylesheet comments are nodes and the marks of HTML comments are skipped;
inside a block comments are skipped and those marks are parts of rules.
-/

namespace CriticalCss.Css

/-- A node of a stylesheet or of a block of rules. -/
inductive Node where
  | comment (position : Position) (text : List Char)
  | qualified (position : Position) (prelude content : List Component)
  | atRule (position : Position) (keyword : List Char) (prelude : List Component)
      (content : Option (List Component))
  | invalid (position : Position) (fault : Fault)
deriving Repr

namespace Node

/-- The components up to the block of a rule, the content of that block, and what follows. -/
def spanBlock : List Component → List Component × Option (List Component) × List Component
  | [] => ([], none, [])
  | c :: rest =>
    match c.curly? with
    | some content => ([], some content, rest)
    | none =>
      let span := spanBlock rest
      (c :: span.1, span.2)

/-- The components of an at-rule up to its block or semicolon, the content of the block if there
is one, and what follows. -/
def spanAtRule : List Component → List Component × Option (List Component) × List Component
  | [] => ([], none, [])
  | c :: rest =>
    match c.curly? with
    | some content => ([], some content, rest)
    | none =>
      if c.isLiteral [';'] then ([], none, rest)
      else
        let span := spanAtRule rest
        (c :: span.1, span.2)

theorem length_spanBlock_le (cs : List Component) : (spanBlock cs).2.2.length ≤ cs.length := by
  induction cs with
  | nil => simp [spanBlock]
  | cons c rest ih =>
    simp only [spanBlock]
    split
    · simp
    · simp
      omega

theorem length_spanAtRule_le (cs : List Component) : (spanAtRule cs).2.2.length ≤ cs.length := by
  induction cs with
  | nil => simp [spanAtRule]
  | cons c rest ih =>
    simp only [spanAtRule]
    split
    · simp
    · split
      · simp
      · simp
        omega

/-- The rule that begins with `first`, and what follows it. -/
def readRule (first : Component) (rest : List Component) : Node × List Component :=
  match first with
  | .token p (.atKeyword keyword) =>
    let span := spanAtRule rest
    (.atRule p keyword span.1 span.2.1, span.2.2)
  | _ =>
    let span := spanBlock (first :: rest)
    match span.2.1 with
    | some content => (.qualified first.position span.1 content, span.2.2)
    | none => (.invalid (span.1.getLast?.getD first).position .noBlock, span.2.2)

theorem length_readRule_le (first : Component) (rest : List Component) :
    (readRule first rest).2.length ≤ rest.length := by
  have whole : (spanBlock (first :: rest)).2.2.length ≤ rest.length := by
    simp only [spanBlock]
    split
    · simp
    · exact length_spanBlock_le rest
  unfold readRule
  split
  · exact length_spanAtRule_le rest
  · simp only
    split <;> exact whole

/-- The marks of HTML comments, which are skipped at the top level. -/
def isHtmlMark (c : Component) : Bool :=
  c.isLiteral ['<', '!', '-', '-'] || c.isLiteral ['-', '-', '>']

/-- The nodes of a block of rules. -/
def ofBlock : List Component → List Node
  | [] => []
  | c :: rest =>
    if c.isSignificant then
      (readRule c rest).1 :: ofBlock (readRule c rest).2
    else ofBlock rest
termination_by cs => cs.length
decreasing_by
  · have := length_readRule_le c rest
    simp
    omega
  · simp

def ofSheet : List Component → List Node
  | [] => []
  | c :: rest =>
    match c with
    | .token p (.comment text) => .comment p text :: ofSheet rest
    | _ =>
      if c.isWhitespace || isHtmlMark c then ofSheet rest
      else (readRule c rest).1 :: ofSheet (readRule c rest).2
termination_by cs => cs.length
decreasing_by
  · simp
  · simp
  · have := length_readRule_le c rest
    simp
    omega

end Node

end CriticalCss.Css
