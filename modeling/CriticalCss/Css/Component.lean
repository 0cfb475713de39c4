import CriticalCss.Css.Lexer

/-!
# Component values

Lexemes nested by their brackets. A bracket that nothing closes ends with the text; a closing
bracket that closes nothing becomes a token of its own, `Token.unmatched`.
-/

namespace CriticalCss.Css

/-- A token, a bracketed block, or a function with its arguments, each with its place. -/
inductive Component where
  | token (position : Position) (t : Token)
  | block (position : Position) (bracket : Bracket) (content : List Component)
  | function (position : Position) (name : List Char) (arguments : List Component)
deriving Repr

namespace Component

/-- The place where a component begins. -/
def position : Component → Position
  | token p _ | block p _ _ | function p _ _ => p

/-- The name of a component's kind, as messages show it. -/
def kind : Component → String
  | token _ t => t.kind
  | block _ .curly _ => "\x7b\x7d block"
  | block _ .square _ => "[] block"
  | block _ .round _ => "() block"
  | function _ _ _ => "function"

/-- The token is the given literal. -/
def isLiteral (text : List Char) : Component → Bool
  | token _ (.literal t) => t == text
  | _ => false

def isWhitespace : Component → Bool
  | token _ (.whitespace _) => true
  | _ => false

def isComment : Component → Bool
  | token _ (.comment _) => true
  | _ => false

/-- Neither white space nor a comment. -/
def isSignificant (c : Component) : Bool :=
  !c.isWhitespace && !c.isComment

/-- The content of a block in curly brackets. -/
def curly? : Component → Option (List Component)
  | block _ .curly content => some content
  | _ => none

/-- The components up to the bracket that closes them, or to the end if there is none, and the
lexemes behind that bracket. -/
def nest (closer : Option Bracket) (lexemes : List (Position × Lexeme)) :
    List Component × { rest : List (Position × Lexeme) // rest.length ≤ lexemes.length } :=
  match lexemes with
  | [] => ([], ⟨[], by simp⟩)
  | (p, .token t) :: rest =>
    let (components, ⟨after, shorter⟩) := nest closer rest
    (token p t :: components, ⟨after, by simp; omega⟩)
  | (p, .opening bracket) :: rest =>
    let (content, ⟨behind, bound⟩) := nest (some bracket) rest
    let (components, ⟨after, shorter⟩) := nest closer behind
    (block p bracket content :: components, ⟨after, by simp; omega⟩)
  | (p, .functionOpening name) :: rest =>
    let (arguments, ⟨behind, bound⟩) := nest (some .round) rest
    let (components, ⟨after, shorter⟩) := nest closer behind
    (function p name arguments :: components, ⟨after, by simp; omega⟩)
  | (p, .closing bracket) :: rest =>
    if closer = some bracket then ([], ⟨rest, by simp⟩)
    else
      let (components, ⟨after, shorter⟩) := nest closer rest
      (token p (.unmatched bracket) :: components, ⟨after, by simp; omega⟩)
termination_by lexemes.length

end Component

/-- The component values of a stylesheet. -/
def components (cs : List Char) : List Component :=
  (Component.nest none (lex cs)).1

end CriticalCss.Css
