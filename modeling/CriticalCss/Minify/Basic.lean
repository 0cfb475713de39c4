import CriticalCss.Minify.Scan
import CriticalCss.Text.Blank

/-!
# Minifying a stylesheet

One pass over the text of a stylesheet that drops comments and the white space that nothing needs.
At each place the first rule that applies decides what is written; a character to which no rule
applies is copied. Of comments, only the pair of marks by which a stylesheet hides a part from an
old browser is kept: a comment that ends in a backslash begins the hidden part, and any other
comment ends it.
-/

namespace CriticalCss.Minify

/-- What the pass keeps in mind. -/
structure State where
  /-- The number of open blocks that hold declarations. -/
  depth : Nat
  /-- The number of at-rules for groups whose block has not begun yet. -/
  groups : Nat
  /-- Whether a part is hidden from an old browser. -/
  concealed : Bool
deriving DecidableEq, Repr

/-- Outside of every block and of every at-rule for a group. -/
def State.isOutside (s : State) : Bool :=
  s.depth == 0 && s.groups == 0

/-- What one rule does: the text it takes, the text it writes, and the state behind it. -/
structure Step where
  taken : List Char
  rest : List Char
  written : List Char
  state : State
deriving Repr

/-! ## Comments that hide a part -/

/-- What is left of a run of comments whose last one has the given text. -/
def leaveComment (s : State) (text : List Char) : List Char × State :=
  if text.getLast? = some '\\' then
    if s.concealed then ([], s)
    else (['/', '*', '\\', '*', '/'], { s with concealed := true })
  else if s.concealed then (['/', '*', '*', '/'], { s with concealed := false })
  else ([], s)

/-- What is left of blanks and comments: of each run of comments its last one may leave a mark. -/
def leave (s : State) : List Piece → List Char × State
  | [] => ([], s)
  | .gap _ :: rest => leave s rest
  | .comment _ :: .comment text :: rest => leave s (.comment text :: rest)
  | .comment text :: rest =>
    let mark := leaveComment s text
    let others := leave mark.2 rest
    (mark.1 ++ others.1, others.2)

/-- The text of pieces. -/
def piecesText (pieces : List Piece) : List Char :=
  pieces.flatMap Piece.text

/-- A step that takes `taken` and writes it unchanged. -/
def Step.copy (s : State) (taken rest : List Char) : Step :=
  ⟨taken, rest, taken, s⟩

/-- A step that takes `taken` and some pieces, and writes `lead` and what is left of the
pieces. -/
def Step.leaving (s : State) (taken lead : List Char) (pieces : List Piece) (rest : List Char) :
    Step :=
  let left := leave s pieces
  ⟨taken ++ piecesText pieces, rest, lead ++ left.1, left.2⟩

/-! ## Rules -/

/-- Blanks and comments. They go behind an opening mark, at the start of the text, and before a
closing mark; elsewhere a space remains. A colon outside of all blocks begins a pseudo class, so a
space before it remains. Directly behind an ampersand this rule does not apply. -/
def spaceStep? (s : State) (before : Option Char) (cs : List Char) : Option Step :=
  match scanPieces (fun _ => false) cs with
  | ([], _) => none
  | (pieces, rest) =>
    match before with
    | none => some (.leaving s [] [] pieces rest)
    | some b =>
      if b ∈ ['\x7b', '\x7d', '(', '=', ':', '>', '[', ',', '!'] then
        some (.leaving s [] [] pieces rest)
      else if b = '&' then none
      else
        let gone :=
          match rest with
          | [] => true
          | c :: _ =>
            c ∈ ['\x7b', '\x7d', ')', ';', '=', '>', ']', ',', '!'] || (c = ':' && !s.isOutside)
        some (.leaving s [] (if gone then [] else [' ']) pieces rest)

/-- A row of semicolons becomes one, and none at the end of a block. -/
def semicolonStep? (s : State) : List Char → Option Step
  | ';' :: cs =>
    let (pieces, rest) := scanPieces (· == ';') cs
    let last := rest.head? == some '\x7d' && 0 < s.depth
    some (.leaving s [';'] (if last then [] else [';']) pieces rest)
  | _ => none

/-- The brackets of blocks. The first block behind an at-rule for a group holds rules. -/
def braceStep? (s : State) : List Char → Option Step
  | '\x7b' :: rest =>
    let next :=
      if 0 < s.groups then { s with groups := s.groups - 1 } else { s with depth := s.depth + 1 }
    some (.copy next ['\x7b'] rest)
  | '\x7d' :: rest => some (.copy { s with depth := s.depth - 1 } ['\x7d'] rest)
  | _ => none

def stringStep? (s : State) (cs : List Char) : Option Step :=
  (scanString? .none cs).map fun (string, rest) => .copy s string rest

/-- An address, with its blanks dropped. -/
def urlStep? (s : State) (before : Option Char) (cs : List Char) : Option Step :=
  if before.any isNameChar then none
  else
    (scanUrl? cs).map fun (inside, taken, rest) =>
      let kept := if isPlainData inside then inside else squeezeUrl inside
      ⟨taken, rest, ['u', 'r', 'l', '('] ++ kept ++ [')'], s⟩

/-- The keyword of an at-rule for a group. -/
def groupStep? (s : State) (cs : List Char) : Option Step :=
  (scanGroupWord? cs).map fun (word, rest) =>
    .copy { s with groups := s.groups + 1 } word rest

/-- An ampersand with blanks and comments behind it: one space remains of blanks, unless the text
ends. -/
def ampersandStep? (s : State) : List Char → Option Step
  | '&' :: cs =>
    match scanPieces (fun _ => false) cs with
    | ([], _) => none
    | (pieces, rest) =>
      let spaced := !rest.isEmpty && pieces.any fun
        | .gap _ => true
        | .comment _ => false
      some (.leaving s ['&'] ('&' :: if spaced then [' '] else []) pieces rest)
  | _ => none

/-- A child mark with an empty comment, by which a stylesheet hides a rule from an old browser. It
is kept outside of blocks, where it also ends a hidden part. -/
def childStep? (s : State) (cs : List Char) : Option Step :=
  let mark := ['>', '/', '*', '*', '/']
  (Text.dropLead? mark cs).map fun rest =>
    let (pieces, rest) := scanPieces (fun _ => false) rest
    if s.isOutside then .leaving { s with concealed := false } mark mark pieces rest
    else .leaving s mark ['>'] pieces rest

/-- The pseudo part of a first line or letter keeps a space before a block and before a comma. -/
def firstPartStep? (s : State) (cs : List Char) : Option Step :=
  match scanFirstPart? cs with
  | none => none
  | some (word, rest) =>
    let (pieces, rest) := scanPieces (fun _ => false) rest
    if rest.head? = some '\x7b' || rest.head? = some ',' then
      some (.leaving s word (word ++ [' ']) pieces rest)
    else none

/-- A string with escaped line ends, which go. -/
def longStringStep? (s : State) (cs : List Char) : Option Step :=
  (scanString? .escaped cs).map fun (string, rest) => ⟨string, rest, dropContinuations string, s⟩

/-- Rows of blanks other than spaces become one space each. -/
def foldBlanks : List Char → List Char
  | [] => []
  | c :: rest =>
    if folds c then
      if rest.head?.any folds then foldBlanks rest else ' ' :: foldBlanks rest
    else c :: foldBlanks rest
where
  /-- A blank other than a space. -/
  folds (c : Char) : Bool :=
    isBlank c && c != ' '

/-- An escape and the plain text behind it. -/
def escapeStep? (s : State) (cs : List Char) : Option Step :=
  (scanEscape? cs).map fun (escape, after) =>
    let plain := after.takeWhile fun c => !endsEscapeRun c
    ⟨escape ++ plain, after.drop plain.length, foldBlanks (escape ++ plain), s⟩

/-- A run of characters that need no closer look. -/
def plainStep? (s : State) (cs : List Char) : Option Step :=
  match cs.takeWhile fun c => !isNotable c with
  | [] => none
  | run => some (.copy s run (cs.drop run.length))

/-- The step at the text `c :: cs`, which `before` stands before. -/
def step (s : State) (before : Option Char) (c : Char) (cs : List Char) : Step :=
  let text := c :: cs
  ((plainStep? s text).or <| (spaceStep? s before text).or <| (semicolonStep? s text).or <|
    (braceStep? s text).or <| (stringStep? s text).or <| (urlStep? s before text).or <|
    (groupStep? s text).or <| (ampersandStep? s text).or <| (childStep? s text).or <|
    (firstPartStep? s text).or <| (longStringStep? s text).or <| escapeStep? s text).getD
      (.copy s [c] cs)

/-- The minified text of what is left to read. -/
def pass (s : State) (before : Option Char) (cs : List Char) : List Char :=
  go cs.length s before cs
where
  /-- At most `n` steps; every step takes a character, so the length of the text is enough. -/
  go : Nat → State → Option Char → List Char → List Char
    | 0, _, _, _ => []
    | _, _, _, [] => []
    | n + 1, s, before, c :: cs =>
      let next := step s before c cs
      next.written ++ go n next.state (next.taken.getLast?.or before) next.rest

end Minify

/-- The minified text of a stylesheet. -/
def minify (css : String) : String :=
  String.ofList (Text.trim (Minify.pass ⟨0, 0, false⟩ none css.toList))

end CriticalCss
