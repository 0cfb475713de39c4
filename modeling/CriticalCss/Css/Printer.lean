import CriticalCss.Css.Component

/-!
# Writing component values

The text of component values. Names, strings and addresses are written with the escapes they
need, numbers as they were written. In a list, an empty comment goes between two neighbours that
would read as something else if they touched. `textApart` writes components one by one instead,
with runs of white space as one space and without comments, as selectors and conditions are
written.
-/

namespace CriticalCss.Css

/-! ## Characters -/

/-- A hexadecimal digit, in upper case. -/
def upperHex (n : Nat) : List Char :=
  (Nat.toDigits 16 n).map Char.toUpper

/-- The escape of a line end, if `c` is one. -/
def lineEscape? (c : Char) : Option (List Char) :=
  if c = '\n' then some ['\\', 'A', ' ']
  else if c = '\r' then some ['\\', 'D', ' ']
  else if c = '\x0c' then some ['\\', 'C', ' ']
  else none

/-- One character of a name behind its first. -/
def nameCharText (c : Char) : List Char :=
  if isNameChar c then [c] else (lineEscape? c).getD ['\\', c]

/-- The characters of a name behind its first. -/
def nameText (cs : List Char) : List Char :=
  cs.flatMap nameCharText

/-- The first character of a name. -/
def nameStartText (c : Char) : List Char :=
  if isNameStart c then [c]
  else
    match lineEscape? c with
    | some text => text
    | none => if c.isDigit then '\\' :: upperHex c.toNat ++ [' '] else ['\\', c]

/-- A name at a place where it must read as an identifier. -/
def identText : List Char → List Char
  | [] => []
  | ['-'] => ['\\', '-']
  | '-' :: '-' :: rest => '-' :: '-' :: nameText rest
  | '-' :: c :: rest => '-' :: nameStartText c ++ nameText rest
  | c :: rest => nameStartText c ++ nameText rest

/-- A unit behind a number; one that would read as an exponent begins with an escape. -/
def unitText : List Char → List Char
  | [c] => if c = 'e' || c = 'E' then escaped [] else identText [c]
  | c :: '-' :: rest =>
    if c = 'e' || c = 'E' then escaped ('-' :: rest) else identText (c :: '-' :: rest)
  | unit => identText unit
where
  /-- The letter as an escape, then the rest of the unit. -/
  escaped (rest : List Char) : List Char :=
    ['\\', '6', '5', ' '] ++ nameText rest

/-- One character between double quotes. -/
def stringCharText (c : Char) : List Char :=
  if c = '"' || c = '\\' then ['\\', c] else (lineEscape? c).getD [c]

/-- One character of an address without quotes. -/
def urlCharText (c : Char) : List Char :=
  if c ∈ ['\'', '"', '\\', ' ', '(', ')'] then ['\\', c]
  else if c = '\t' then ['\\', '9', ' ']
  else (lineEscape? c).getD [c]

/-! ## Tokens -/

/-- The text of a token. A string or an address without an end is written without one. -/
def Token.text : Token → List Char
  | whitespace text => text
  | comment text => '/' :: '*' :: text ++ ['*', '/']
  | ident name => identText name
  | atKeyword name => '@' :: identText name
  | hash name true => '#' :: identText name
  | hash name false => '#' :: nameText name
  | string value closed => '"' :: value.flatMap stringCharText ++ if closed then ['"'] else []
  | url value closed =>
    ['u', 'r', 'l', '('] ++ value.flatMap urlCharText ++ if closed then [')'] else []
  | unicodeRange first last =>
    'U' :: '+' :: upperHex first ++ if last = first then [] else '-' :: upperHex last
  | number digits => digits
  | percentage digits => digits ++ ['%']
  | dimension digits unit => digits ++ unitText unit
  | literal text => text
  | badString => "\"[bad string]\n".toList
  | badUrl => "url([bad url])".toList
  | unmatched bracket => [bracket.closing]

/-! ## Neighbours -/

/-- What a component is to its neighbours: its kind, or its text if it is a literal. -/
inductive Contact where
  | name
  | function
  | address
  | keyword
  | hash
  | range
  | number
  | percentage
  | dimension
  | group
  | literal (text : List Char)
  | lineStart
  | other
deriving DecidableEq, Repr

/-- What a component is to its neighbours. -/
def Component.contact : Component → Contact
  | token _ (.ident _) => .name
  | token _ (.atKeyword _) => .keyword
  | token _ (.hash _ _) => .hash
  | token _ (.url _ _) => .address
  | token _ (.unicodeRange _ _) => .range
  | token _ (.number _) => .number
  | token _ (.percentage _) => .percentage
  | token _ (.dimension _ _) => .dimension
  | token _ (.literal text) => .literal text
  | token _ (.whitespace ('\n' :: _)) => .lineStart
  | token _ _ => .other
  | block _ .round _ => .group
  | block _ _ _ => .other
  | function _ _ _ => .function

namespace Contact

/-- A literal of one character. -/
def mark (c : Char) : Contact := .literal [c]

/-- The pairs of neighbours that must not touch, as rows of left sides and right sides. -/
def clashes : List (List Contact × List Contact) :=
  [([name, keyword, hash, dimension, mark '#', mark '-', number],
      [name, function, address, number, percentage, dimension, range]),
    ([name, keyword, hash, dimension], [mark '-', .literal ['-', '-', '>']]),
    ([mark '#', mark '-', number, mark '@'], [name, function, address]),
    ([range, mark '.', mark '+'], [number, percentage, dimension]),
    ([mark '@'], [name, function, address, range, mark '-']),
    ([range], [name, function, mark '?']),
    ([mark '$', mark '*', mark '^', mark '~', mark '|'], [mark '=']),
    ([name], [group]),
    ([mark '|'], [mark '|']),
    ([mark '/'], [mark '*'])]

/-- The two must not touch. -/
def clash (left right : Contact) : Bool :=
  clashes.any fun (lefts, rights) => lefts.contains left && rights.contains right

/-- What goes between two neighbours. Behind a backslash a line must end. -/
def between (left right : Contact) : List Char :=
  if clash left right then ['/', '*', '*', '/']
  else if left = mark '\\' && right != lineStart then ['\n']
  else []

end Contact

/-! ## Components -/

mutual

/-- Whether the last argument is a string that the end of the text cuts off, or a function of
which the same is true; then no closing bracket was read. -/
def Component.isCutOff : Component → Bool
  | .token _ (.string _ closed) => !closed
  | .function _ _ arguments => Component.endsCutOff arguments
  | _ => false

/-- The last of the components is cut off. -/
def Component.endsCutOff : List Component → Bool
  | [] => false
  | [last] => last.isCutOff
  | _ :: rest => Component.endsCutOff rest

end

mutual

def Component.text : Component → List Char
  | .token _ t => t.text
  | .block _ bracket content => bracket.opening :: (textList none content ++ [bracket.closing])
  | .function _ name arguments =>
    identText name ++ '(' ::
      (textList none arguments ++ if Component.endsCutOff arguments then [] else [')'])

/-- The text of components in a row, with what must go between neighbours; `left` is what stands
before them. -/
def textList (left : Option Contact) : List Component → List Char
  | [] => []
  | c :: rest =>
    (match left with
      | none => []
      | some l => l.between c.contact) ++ (c.text ++ textList (some c.contact) rest)

end

/-- The text of a list of components. -/
def text (cs : List Component) : List Char :=
  textList none cs

/-- The text of components one by one: comments left out, each run of white space between two
components as one space. -/
def textApart (cs : List Component) : List Char :=
  go false false cs
where
  /-- `begun` tells whether something was written, `space` whether white space was passed since. -/
  go (begun space : Bool) : List Component → List Char
    | [] => []
    | c :: rest =>
      if c.isComment then go begun space rest
      else if c.isWhitespace then go begun true rest
      else (if space && begun then [' '] else []) ++ (c.text ++ go true false rest)

end CriticalCss.Css
