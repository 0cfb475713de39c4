import CriticalCss.Position
import CriticalCss.Css.Scan

/-!
# From text to lexemes

`lex` cuts the text of a stylesheet into lexemes, each with the place where it begins. The tests
for the shapes of a lexeme are made in a fixed order, and the first that holds decides. Line ends
are made uniform first by `normalize`, so a place counts a pair of carriage return and line feed
as one character.
-/

namespace CriticalCss.Css

open Text (isHexDigit)

/-- Makes all line ends line feeds and replaces null characters. -/
def normalize : List Char → List Char
  | [] => []
  | '\r' :: '\n' :: rest => '\n' :: normalize rest
  | c :: rest =>
    (if c = '\r' || c = '\x0c' then '\n' else if c = '\x00' then replacement else c) ::
      normalize rest

/-- An address without quotes follows: the function is named `url`, and behind white space stands
no quote. -/
def startsUrl (name args : List Char) : Bool :=
  name.map Char.toLower == ['u', 'r', 'l'] &&
    match args.dropWhile isSpace with
    | c :: _ => c != '"' && c != '\''
    | [] => true

/-- The lexeme that begins with a name. -/
def readNamed (cs : List Char) : Lexeme × List Char :=
  match readName cs with
  | (name, '(' :: args) =>
    if startsUrl name args then
      let (token, rest) := readUrl args
      (.token token, rest)
    else (.functionOpening name, args)
  | (name, rest) => (.token (.ident name), rest)

/-- The lexeme that begins with a number, which `rest` follows. -/
def readNumeric (digits rest : List Char) : Lexeme × List Char :=
  if startsName rest then
    let (unit, after) := readName rest
    (.token (.dimension digits unit), after)
  else
    match rest with
    | '%' :: after => (.token (.percentage digits), after)
    | _ => (.token (.number digits), rest)

/-- The lexeme of a string whose opening quote has been read. -/
def readQuoted (quote : Char) (cs : List Char) : Lexeme × List Char :=
  match readString quote cs with
  | (value, .closed, rest) => (.token (.string value true), rest)
  | (value, .textEnd, rest) => (.token (.string value false), rest)
  | (_, .lineEnd, rest) => (.token .badString, rest)

/-- The lexeme of a character that is a mark of its own, alone or with those that follow it. -/
def readMark (c : Char) (rest : List Char) : Lexeme × List Char :=
  match c, rest with
  | '\x7b', _ => (.opening .curly, rest)
  | '[', _ => (.opening .square, rest)
  | '(', _ => (.opening .round, rest)
  | '\x7d', _ => (.closing .curly, rest)
  | ']', _ => (.closing .square, rest)
  | ')', _ => (.closing .round, rest)
  | '/', '*' :: text =>
    let (comment, after) := readComment text
    (.token (.comment comment), after)
  | '<', '!' :: '-' :: '-' :: after => (.token (.literal ['<', '!', '-', '-']), after)
  | '|', '|' :: after => (.token (.literal ['|', '|']), after)
  | _, '=' :: after =>
    if c ∈ ['~', '|', '^', '$', '*'] then (.token (.literal [c, '=']), after)
    else (.token (.literal [c]), rest)
  | _, _ => (.token (.literal [c]), rest)

/-- A range of code points begins here: `cs` follows a letter `u`. -/
def startsRange : List Char → Bool
  | '+' :: c :: _ => isHexDigit c || c == '?'
  | _ => false

/-- The name of a hash may begin here; any character of names will do. -/
def startsHash : List Char → Bool
  | '\\' :: rest => isEscape rest
  | c :: _ => isNameChar c
  | [] => false

/-- The lexeme at the start of the text `c :: rest`, and the text behind it. -/
def readLexeme (c : Char) (rest : List Char) : Lexeme × List Char :=
  if isSpace c then
    (.token (.whitespace (c :: rest.takeWhile isSpace)), rest.dropWhile isSpace)
  else if (c = 'u' || c = 'U') && startsRange rest then
    let (token, after) := readRange (rest.drop 1)
    (.token token, after)
  else if ['-', '-', '>'].isPrefixOf (c :: rest) then
    (.token (.literal ['-', '-', '>']), rest.drop 2)
  else if startsName (c :: rest) then readNamed (c :: rest)
  else
    match readNumber? (c :: rest) with
    | some (digits, after) => readNumeric digits after
    | none =>
      if c = '@' && startsName rest then
        let (name, after) := readName rest
        (.token (.atKeyword name), after)
      else if c = '#' && startsHash rest then
        let (name, after) := readName rest
        (.token (.hash name (startsName rest)), after)
      else if c = '"' || c = '\'' then readQuoted c rest
      else readMark c rest

/-! ## A lexeme takes at least one character -/

theorem length_readNamed_le {c : Char} {rest : List Char} (start : startsName (c :: rest)) :
    (readNamed (c :: rest)).2.length ≤ rest.length := by
  have bound := length_readName_lt start
  unfold readNamed
  split
  · rename_i name args eq
    rw [eq] at bound
    simp at bound
    have := length_readUrl_le args
    split
    · simp
      omega
    · simp
      omega
  · rename_i eq
    rw [eq] at bound
    exact bound

theorem length_readNumeric_le (digits rest : List Char) :
    (readNumeric digits rest).2.length ≤ rest.length := by
  unfold readNumeric
  split
  · exact length_readName_le rest
  · split <;> simp

theorem length_readQuoted_le (quote : Char) (cs : List Char) :
    (readQuoted quote cs).2.length ≤ cs.length := by
  have bound := length_readString_le quote cs
  unfold readQuoted
  split <;> (rename_i eq; simpa [eq] using bound)

theorem length_readMark_le (c : Char) (rest : List Char) :
    (readMark c rest).2.length ≤ rest.length := by
  unfold readMark
  split
  case h_7 text =>
    have := length_readComment_le text
    simp
    omega
  case h_10 => split <;> simp
  all_goals simp
  omega

theorem length_readLexeme_le (c : Char) (rest : List Char) :
    (readLexeme c rest).2.length ≤ rest.length := by
  unfold readLexeme
  split
  · exact (rest.dropWhile_sublist isSpace).length_le
  split
  · have := length_readRange_le (rest.drop 1)
    simp at this ⊢
    omega
  split
  · simp
  split
  · rename_i start
    exact length_readNamed_le start
  split
  · rename_i digits after eq
    have := length_readNumber?_lt eq
    have := length_readNumeric_le digits after
    simp at *
    omega
  split
  · exact length_readName_le rest
  split
  · exact length_readName_le rest
  split
  · exact length_readQuoted_le c rest
  · exact length_readMark_le c rest

/-! ## The whole text -/

/-- The lexemes of a text that begins at `p`, each with its place. -/
def lexFrom (p : Position) : List Char → List (Position × Lexeme)
  | [] => []
  | c :: rest =>
    match read : readLexeme c rest with
    | (lexeme, after) =>
      (p, lexeme) ::
        lexFrom (p.after ((c :: rest).take (rest.length + 1 - after.length))) after
termination_by cs => cs.length
decreasing_by
  have := length_readLexeme_le c rest
  simp [read] at this ⊢
  omega

/-- The lexemes of a stylesheet. -/
def lex (cs : List Char) : List (Position × Lexeme) :=
  lexFrom Position.start (normalize cs)

end CriticalCss.Css
