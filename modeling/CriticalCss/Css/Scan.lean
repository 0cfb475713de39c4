import CriticalCss.Css.Token
import CriticalCss.Text.Alphanumeric

/-!
# Scanning the parts of a token

One function for each shape that a token can begin with: names with their escapes, strings,
addresses, numbers, ranges of code points and comments. Each gives what it read and the rest of
the text, and beside each stands the fact that the rest is not longer than the text.
-/

namespace CriticalCss.Css

open Text (isHexDigit)

/-! ## Character classes -/

/-- The white space between tokens. Other line ends are replaced before. -/
def isSpace (c : Char) : Bool :=
  c == ' ' || c == '\n' || c == '\t'

/-- A character that a name may start with. -/
def isNameStart (c : Char) : Bool :=
  c.isAlpha || c == '_' || 0x7F < c.toNat

def isNameChar (c : Char) : Bool :=
  isNameStart c || c.isDigit || c == '-'

/-- The value of a hexadecimal digit. -/
def hexValue (c : Char) : Nat :=
  if c.isDigit then c.toNat - 48 else c.toLower.toNat - 87

/-- The value of a row of hexadecimal digits. -/
def hexNumber (cs : List Char) : Nat :=
  cs.foldl (fun n c => n * 16 + hexValue c) 0

/-- A character without a visible form, which an address without quotes cannot hold. -/
def isNonPrintable (c : Char) : Bool :=
  let n := c.toNat
  n ≤ 0x08 || n == 0x0B || (0x0E ≤ n && n ≤ 0x1F) || n == 0x7F

/-- The replacement for a code point that is no character. -/
def replacement : Char := '\ufffd'

/-- The character of a code point. No text here holds a lone surrogate, so the escape of one, of
which nothing is said, gives the replacement too. -/
def ofCodePoint (n : Nat) : Char :=
  if n ≠ 0 ∧ n.isValidChar then Char.ofNat n else replacement

/-! ## Runs of characters -/

/-- The characters at the start that satisfy `p`, at most `n` of them, and the rest. -/
def spanUpTo (p : Char → Bool) : Nat → List Char → List Char × List Char
  | 0, cs => ([], cs)
  | _ + 1, [] => ([], [])
  | n + 1, c :: rest =>
    if p c then
      let (run, after) := spanUpTo p n rest
      (c :: run, after)
    else ([], c :: rest)

theorem length_spanUpTo_le (p : Char → Bool) (n : Nat) (cs : List Char) :
    (spanUpTo p n cs).2.length ≤ cs.length := by
  induction n generalizing cs with
  | zero => simp [spanUpTo]
  | succ n ih =>
    cases cs with
    | nil => simp [spanUpTo]
    | cons c rest =>
      simp only [spanUpTo]
      split
      · have := ih rest
        simp
        omega
      · simp

/-! ## Escapes and names -/

/-- A backslash before `cs` begins an escape: anything but a line end may follow. -/
def isEscape : List Char → Bool
  | '\n' :: _ => false
  | _ => true

/-- The text without the one white space that may end an escape of digits. -/
def dropSpace : List Char → List Char
  | c :: rest => if isSpace c then rest else c :: rest
  | [] => []

/-- The character that an escape stands for and the rest; `cs` begins behind the backslash. -/
def readEscape : List Char → Char × List Char
  | [] => (replacement, [])
  | c :: rest =>
    if isHexDigit c then
      let (digits, after) := spanUpTo isHexDigit 5 rest
      (ofCodePoint (hexNumber (c :: digits)), dropSpace after)
    else (c, rest)

theorem length_dropSpace_le (cs : List Char) : (dropSpace cs).length ≤ cs.length := by
  cases cs with
  | nil => simp [dropSpace]
  | cons c rest => simp only [dropSpace]; split <;> simp

theorem length_readEscape_le (cs : List Char) : (readEscape cs).2.length ≤ cs.length := by
  cases cs with
  | nil => simp [readEscape]
  | cons c rest =>
    simp only [readEscape]
    split
    · have := length_spanUpTo_le isHexDigit 5 rest
      have := length_dropSpace_le (spanUpTo isHexDigit 5 rest).2
      simp
      omega
    · simp

def startsName : List Char → Bool
  | [] => false
  | '\\' :: rest => isEscape rest
  | '-' :: '\\' :: rest => isEscape rest
  | '-' :: c :: _ => isNameStart c || c == '-'
  | c :: _ => isNameStart c

/-- The name at the start of a text, empty if there is none, and the rest. -/
def readName : List Char → List Char × List Char
  | [] => ([], [])
  | c :: rest =>
    if isNameChar c then
      let (name, after) := readName rest
      (c :: name, after)
    else if c = '\\' ∧ isEscape rest then
      let (name, after) := readName (readEscape rest).2
      ((readEscape rest).1 :: name, after)
    else ([], c :: rest)
termination_by cs => cs.length
decreasing_by
  · simp
  · have := length_readEscape_le rest
    simp
    omega

theorem length_readName_le (cs : List Char) : (readName cs).2.length ≤ cs.length := by
  fun_induction readName cs with
  | case1 => simp
  | case2 c rest isName name after eq ih => simp [eq] at ih ⊢; omega
  | case3 c rest noName escape name after eq ih =>
    have := length_readEscape_le rest
    simp [eq] at ih ⊢
    omega
  | case4 => simp

theorem isNameChar_of_isNameStart {c : Char} (h : isNameStart c) : isNameChar c := by
  simp [isNameChar, h]

theorem length_readName_lt {c : Char} {rest : List Char} (start : startsName (c :: rest)) :
    (readName (c :: rest)).2.length ≤ rest.length := by
  by_cases name : isNameChar c
  · have := length_readName_le rest
    simp [readName, name]
    omega
  · by_cases escape : c = '\\' ∧ isEscape rest
    · have := length_readEscape_le rest
      have := length_readName_le (readEscape rest).2
      rw [readName, if_neg name, if_pos escape]
      simp
      omega
    · exfalso
      unfold startsName at start
      split at start
      · contradiction
      · rename_i eq
        cases eq
        exact escape ⟨rfl, start⟩
      · rename_i eq
        cases eq
        exact name (by decide)
      · rename_i eq
        cases eq
        exact name (by decide)
      · rename_i eq
        cases eq
        exact name (isNameChar_of_isNameStart start)

/-! ## Strings -/

/-- How reading a string ended: at its quote, before a line end, or with the text. -/
inductive StringEnd where
  | closed
  | lineEnd
  | textEnd
deriving DecidableEq, Repr

/-- The value of a string up to its closing quote. -/
def readString (quote : Char) : List Char → List Char × StringEnd × List Char
  | [] => ([], .textEnd, [])
  | c :: rest =>
    if c = quote then ([], .closed, rest)
    else if c = '\\' then
      match rest with
      | [] => ([], .textEnd, [])
      | d :: afterMark =>
        if d = '\n' then readString quote afterMark
        else
          let (value, ending, after) := readString quote (readEscape (d :: afterMark)).2
          ((readEscape (d :: afterMark)).1 :: value, ending, after)
    else if c = '\n' then ([], .lineEnd, c :: rest)
    else
      let (value, ending, after) := readString quote rest
      (c :: value, ending, after)
termination_by cs => cs.length
decreasing_by
  · simp only [List.length_cons]
    omega
  · have := length_readEscape_le (d :: afterMark)
    simp at this ⊢
    omega
  · simp

theorem length_readString_le (quote : Char) (cs : List Char) :
    (readString quote cs).2.2.length ≤ cs.length := by
  fun_induction readString quote cs with
  | case1 => simp
  | case2 => simp
  | case3 => simp
  | case4 => simp; omega
  | case5 d afterMark noEnd value ending after eq noQuote ih =>
    have := length_readEscape_le (d :: afterMark)
    simp [eq] at ih this ⊢
    omega
  | case6 => simp
  | case7 c rest noQuote noMark noEnd value ending after eq ih => simp [eq] at ih ⊢; omega

/-! ## Addresses without quotes -/

/-- How reading an address ended: at the closing bracket, at white space, with the text, or at a
character that it cannot hold. -/
inductive UrlEnd where
  | closed
  | space
  | textEnd
  | broken
deriving DecidableEq, Repr

/-- The value of an address up to what ends it. -/
def readUrlBody : List Char → List Char × UrlEnd × List Char
  | [] => ([], .textEnd, [])
  | c :: rest =>
    if c = ')' then ([], .closed, rest)
    else if isSpace c then ([], .space, rest)
    else if c = '\\' ∧ isEscape rest then
      let (value, ending, after) := readUrlBody (readEscape rest).2
      ((readEscape rest).1 :: value, ending, after)
    else if c = '"' || c = '\'' || c = '(' || isNonPrintable c then ([], .broken, rest)
    else
      let (value, ending, after) := readUrlBody rest
      (c :: value, ending, after)
termination_by cs => cs.length
decreasing_by
  · have := length_readEscape_le rest
    simp
    omega
  · simp

theorem length_readUrlBody_le (cs : List Char) : (readUrlBody cs).2.2.length ≤ cs.length := by
  fun_induction readUrlBody cs with
  | case1 => simp
  | case2 => simp
  | case3 => simp
  | case4 c rest noClose noSpace escape value ending after eq ih =>
    have := length_readEscape_le rest
    simp [eq] at ih ⊢
    omega
  | case5 => simp
  | case6 c rest noClose noSpace noEscape fits value ending after eq ih =>
    simp [eq] at ih ⊢
    omega

/-- The text behind the bracket that ends a broken address. -/
def dropBrokenUrl : List Char → List Char
  | [] => []
  | '\\' :: ')' :: rest => dropBrokenUrl rest
  | ')' :: rest => rest
  | _ :: rest => dropBrokenUrl rest

theorem length_dropBrokenUrl_le (cs : List Char) : (dropBrokenUrl cs).length ≤ cs.length := by
  fun_induction dropBrokenUrl cs with
  | case1 => simp
  | case2 rest ih => simp; omega
  | case3 => simp
  | case4 c rest h1 h2 ih => simp; omega

/-- The token of an address; the text begins behind the opening bracket. -/
def readUrl (cs : List Char) : Token × List Char :=
  match readUrlBody (cs.dropWhile isSpace) with
  | (value, .closed, rest) => (.url value true, rest)
  | (value, .textEnd, rest) => (.url value false, rest)
  | (_, .broken, rest) => (.badUrl, dropBrokenUrl rest)
  | (value, .space, rest) =>
    match rest.dropWhile isSpace with
    | [] => (.url value false, [])
    | ')' :: after => (.url value true, after)
    | other => (.badUrl, dropBrokenUrl other)

theorem length_readUrl_le (cs : List Char) : (readUrl cs).2.length ≤ cs.length := by
  have skipped := (cs.dropWhile_sublist isSpace).length_le
  have body := length_readUrlBody_le (cs.dropWhile isSpace)
  unfold readUrl
  split
  · rename_i eq
    simp [eq] at body ⊢
    omega
  · rename_i eq
    simp [eq] at body ⊢
    omega
  · rename_i rest eq
    have := length_dropBrokenUrl_le rest
    simp [eq] at body ⊢
    omega
  · rename_i rest eq
    have inner := (rest.dropWhile_sublist isSpace).length_le
    simp [eq] at body
    split
    · simp
    · rename_i eq
      simp [eq] at inner ⊢
      omega
    · rename_i other _ _
      have := length_dropBrokenUrl_le (rest.dropWhile isSpace)
      simp
      omega

/-! ## Numbers -/

/-- The digits at the start of a text and the rest. -/
def spanDigits (cs : List Char) : List Char × List Char :=
  (cs.takeWhile Char.isDigit, cs.dropWhile Char.isDigit)

/-- The sign at the start of a text, empty if there is none, and the rest. -/
def spanSign : List Char → List Char × List Char
  | [] => ([], [])
  | c :: rest => if c = '+' || c = '-' then ([c], rest) else ([], c :: rest)

/-- An exponent that has at least one digit, empty if there is none, and the rest. -/
def readExponent : List Char → List Char × List Char
  | [] => ([], [])
  | mark :: rest =>
    if mark = 'e' || mark = 'E' then
      let (sign, unsigned) := spanSign rest
      let (digits, after) := spanDigits unsigned
      if digits.isEmpty then ([], mark :: rest) else (mark :: sign ++ digits, after)
    else ([], mark :: rest)

/-- The digits of a number without its sign and its exponent, and the rest. -/
def readUnsigned? (cs : List Char) : Option (List Char × List Char) :=
  let (whole, afterWhole) := spanDigits cs
  match afterWhole with
  | '.' :: afterPoint =>
    let (fraction, after) := spanDigits afterPoint
    if !fraction.isEmpty then some (whole ++ '.' :: fraction, after)
    else if !whole.isEmpty then some (whole, afterWhole)
    else none
  | _ => if !whole.isEmpty then some (whole, afterWhole) else none

/-- The number at the start of a text, as written, and the rest. -/
def readNumber? (cs : List Char) : Option (List Char × List Char) :=
  let (sign, unsigned) := spanSign cs
  match readUnsigned? unsigned with
  | some (digits, after) =>
    let (power, rest) := readExponent after
    some (sign ++ digits ++ power, rest)
  | none => none

theorem length_spanSign_le (cs : List Char) : (spanSign cs).2.length ≤ cs.length := by
  cases cs with
  | nil => simp [spanSign]
  | cons c rest => simp only [spanSign]; split <;> simp

theorem length_readExponent_le (cs : List Char) : (readExponent cs).2.length ≤ cs.length := by
  cases cs with
  | nil => simp [readExponent]
  | cons mark rest =>
    have signed := length_spanSign_le rest
    have := ((spanSign rest).2.dropWhile_sublist Char.isDigit).length_le
    simp only [readExponent, spanDigits]
    split
    · by_cases none : ((spanSign rest).2.takeWhile Char.isDigit).isEmpty
      · simp [none]
      · simp only [none]
        simp
        omega
    · simp

theorem length_add_length_spanDigits (cs : List Char) :
    (spanDigits cs).1.length + (spanDigits cs).2.length = cs.length := by
  rw [spanDigits, ← List.length_append, List.takeWhile_append_dropWhile]

theorem length_readUnsigned?_lt {cs digits after : List Char}
    (h : readUnsigned? cs = some (digits, after)) : after.length < cs.length := by
  have sum := length_add_length_spanDigits cs
  simp only [readUnsigned?] at h
  split at h
  · rename_i afterPoint eq
    have := length_add_length_spanDigits afterPoint
    rw [eq] at sum
    simp at sum
    split at h
    · cases h
      omega
    · split at h
      · rename_i nonempty
        cases h
        have : (spanDigits cs).1.length ≠ 0 := by simpa using nonempty
        rw [eq]
        simp
        omega
      · cases h
  · split at h
    · rename_i nonempty
      cases h
      have : (spanDigits cs).1.length ≠ 0 := by simpa using nonempty
      omega
    · cases h

theorem length_readNumber?_lt {cs digits after : List Char}
    (h : readNumber? cs = some (digits, after)) : after.length < cs.length := by
  simp only [readNumber?] at h
  split at h
  · rename_i body rest eq
    have unsigned := length_readUnsigned?_lt eq
    have := length_spanSign_le cs
    have := length_readExponent_le rest
    cases h
    omega
  · cases h

/-! ## Ranges of code points and comments -/

/-- A range of code points, written as one code point, as two with a hyphen between them, or
with question marks for digits that may be any; the text begins behind the plus sign. -/
def readRange (cs : List Char) : Token × List Char :=
  let (digits, rest) := spanUpTo isHexDigit 6 cs
  let (marks, rest) := spanUpTo (· == '?') (6 - digits.length) rest
  if !marks.isEmpty then
    (.unicodeRange (hexNumber (digits ++ marks.map fun _ => '0'))
      (hexNumber (digits ++ marks.map fun _ => 'F')), rest)
  else
    match rest with
    | '-' :: c :: afterMark =>
      if isHexDigit c then
        let (upper, after) := spanUpTo isHexDigit 6 (c :: afterMark)
        (.unicodeRange (hexNumber digits) (hexNumber upper), after)
      else (.unicodeRange (hexNumber digits) (hexNumber digits), rest)
    | _ => (.unicodeRange (hexNumber digits) (hexNumber digits), rest)

theorem length_readRange_le (cs : List Char) : (readRange cs).2.length ≤ cs.length := by
  have first := length_spanUpTo_le isHexDigit 6 cs
  have second := length_spanUpTo_le (· == '?') (6 - (spanUpTo isHexDigit 6 cs).1.length)
    (spanUpTo isHexDigit 6 cs).2
  simp only [readRange]
  split
  · exact Nat.le_trans second first
  · split
    · rename_i c afterMark eq
      rw [eq] at second
      simp at second
      split
      · have := length_spanUpTo_le isHexDigit 6 (c :: afterMark)
        simp at this ⊢
        omega
      · rw [eq]
        simp
        omega
    · exact Nat.le_trans second first

/-- The text of a comment up to its end, which may be the end of the whole text; the text begins
behind the opening mark. -/
def readComment : List Char → List Char × List Char
  | [] => ([], [])
  | '*' :: '/' :: rest => ([], rest)
  | c :: rest =>
    let (text, after) := readComment rest
    (c :: text, after)

theorem length_readComment_le (cs : List Char) : (readComment cs).2.length ≤ cs.length := by
  fun_induction readComment cs with
  | case1 => simp
  | case2 => simp; omega
  | case3 c rest h text after eq ih => simp [eq] at ih ⊢; omega

end CriticalCss.Css
