import CriticalCss.Text.Alphanumeric

/-!
# Parts of a text that is to be minified

Blanks, comments, escapes, strings and addresses as the minifier sees them. It works on the plain
text and takes apart only what it has to, so these shapes are simpler than the tokens of a
stylesheet. A scanner gives what it took and the rest; what it takes is never empty.
-/

namespace CriticalCss.Minify

open Text (isHexDigit)

def isBlank (c : Char) : Bool :=
  c == ' ' || c == '\t' || c == '\r' || c == '\n' || c == '\x0c'

/-- A character that ends a line. -/
def isLineEnd (c : Char) : Bool :=
  c == '\r' || c == '\n' || c == '\x0c'

def isNameChar (c : Char) : Bool :=
  c.isAlphanum || c == '-' || c == '_' || 0x80 ≤ c.toNat

/-- A character that needs a closer look, and so ends a run that is copied as it stands. -/
def isNotable (c : Char) : Bool :=
  isBlank c ||
    c ∈ ['\\', '"', '&', '\'', 'u', '>', '@', '/', ';', ':', '\x7b', '\x7d', '+']

/-- A character that cannot follow an escape directly in a run that is copied. -/
def endsEscapeRun (c : Char) : Bool :=
  c != '&' && isNotable c

/-! ## Blanks and comments -/

/-- A piece of a run of blanks and comments. A semicolon in a row of semicolons counts as a
gap, too. -/
inductive Piece where
  | gap (c : Char)
  | comment (text : List Char)
deriving DecidableEq, Repr

def Piece.text : Piece → List Char
  | gap c => [c]
  | comment text => '/' :: '*' :: text ++ ['*', '/']

/-- The text of a comment and the rest, behind the opening mark; none if the comment is never
closed. -/
def scanComment? : List Char → Option (List Char × List Char)
  | [] => none
  | '*' :: '/' :: rest => some ([], rest)
  | c :: rest => (scanComment? rest).map fun (text, after) => (c :: text, after)

theorem length_scanComment?_lt {cs text after : List Char}
    (h : scanComment? cs = some (text, after)) : after.length < cs.length := by
  induction cs generalizing text after with
  | nil => simp [scanComment?] at h
  | cons c rest ih =>
    unfold scanComment? at h
    split at h
    · cases h
    · rename_i eq
      cases eq
      cases h
      simp only [List.length_cons]
      omega
    · rename_i eq
      cases eq
      obtain ⟨⟨t, a⟩, found, eq⟩ := Option.map_eq_some_iff.1 h
      cases eq
      have := ih found
      simp
      omega

/-- The blanks and comments at the start of a text, with those characters that `more` admits as
gaps besides blanks, and the rest. -/
def scanPieces (more : Char → Bool) (cs : List Char) : List Piece × List Char :=
  match cs with
  | [] => ([], [])
  | c :: rest =>
    if isBlank c || more c then
      let pieces := scanPieces more rest
      (.gap c :: pieces.1, pieces.2)
    else
      match c, rest with
      | '/', '*' :: body =>
        match _found : scanComment? body with
        | some (text, after) =>
          let pieces := scanPieces more after
          (.comment text :: pieces.1, pieces.2)
        | none => ([], cs)
      | _, _ => ([], cs)
termination_by cs.length
decreasing_by
  · simp
  · have := length_scanComment?_lt _found
    simp
    omega

/-! ## Escapes -/

/-- The white space that may end an escape of digits: one blank, or a carriage return with its
line feed. -/
def spanEscapeEnd : List Char → List Char × List Char
  | '\r' :: '\n' :: rest => (['\r', '\n'], rest)
  | c :: rest => if isBlank c then ([c], rest) else ([], c :: rest)
  | [] => ([], [])

/-- The hexadecimal digits at the start of a text, at most `n`, and the rest. -/
def spanHex : Nat → List Char → List Char × List Char
  | n + 1, c :: rest =>
    if isHexDigit c then
      let run := spanHex n rest
      (c :: run.1, run.2)
    else ([], c :: rest)
  | _, cs => ([], cs)

/-- The escape at the start of a text, its backslash included, and the rest. -/
def scanEscape? : List Char → Option (List Char × List Char)
  | '\\' :: c :: rest =>
    if isHexDigit c then
      let digits := spanHex 5 rest
      let ending := spanEscapeEnd digits.2
      some ('\\' :: c :: digits.1 ++ ending.1, ending.2)
    else if isLineEnd c then none
    else some (['\\', c], rest)
  | _ => none

/-- The escaped line end at the start of a text, and the rest. -/
def scanContinuation? : List Char → Option (List Char × List Char)
  | '\\' :: '\r' :: '\n' :: rest => some (['\\', '\r', '\n'], rest)
  | '\\' :: c :: rest => if isLineEnd c then some (['\\', c], rest) else none
  | _ => none

/-! ## Strings -/

/-- Which line ends a string may hold: none, escaped ones, or any. -/
inductive LineEnds where
  | none
  | escaped
  | all
deriving DecidableEq, Repr

/-- The rest of a string up to its closing quote, which is taken too, and what follows. -/
def scanQuoted? (quote : Char) (ends : LineEnds) : List Char → Option (List Char × List Char)
  | [] => none
  | '\\' :: '\r' :: '\n' :: rest =>
    if ends = .none then none
    else (scanQuoted? quote ends rest).map fun s => ('\\' :: '\r' :: '\n' :: s.1, s.2)
  | '\\' :: c :: rest =>
    if ends = .none && isLineEnd c then none
    else (scanQuoted? quote ends rest).map fun s => ('\\' :: c :: s.1, s.2)
  | c :: rest =>
    if c = quote then some ([c], rest)
    else if c = '\\' || (ends ≠ .all && isLineEnd c) then none
    else (scanQuoted? quote ends rest).map fun s => (c :: s.1, s.2)

/-- The string at the start of a text, and the rest. -/
def scanString? (ends : LineEnds) : List Char → Option (List Char × List Char)
  | c :: rest =>
    if c = '"' || c = '\'' then (scanQuoted? c ends rest).map fun s => (c :: s.1, s.2) else none
  | [] => none

/-- The text without its escaped line ends. -/
def dropContinuations : List Char → List Char
  | [] => []
  | '\\' :: '\r' :: '\n' :: rest => dropContinuations rest
  | '\\' :: c :: rest =>
    if isLineEnd c then dropContinuations rest else '\\' :: dropContinuations (c :: rest)
  | c :: rest => c :: dropContinuations rest

/-! ## Addresses -/

/-- A character that an address without quotes holds as it stands. -/
def isPlainUrlChar (c : Char) : Bool :=
  0x20 < c.toNat && c != '"' && c != '\'' && c != '(' && c != ')' && c != '\\' &&
    c.toNat != 0x7F

/-- The longest run of plain characters, escapes, blanks and escaped line ends at the start of a
text, and the rest. -/
def spanBareUrl (cs : List Char) : List Char × List Char :=
  go cs.length cs
where
  /-- At most `n` steps. -/
  go : Nat → List Char → List Char × List Char
    | 0, cs => ([], cs)
    | _, [] => ([], [])
    | n + 1, c :: rest =>
      if isPlainUrlChar c || isBlank c then
        let run := go n rest
        (c :: run.1, run.2)
      else
        match (scanEscape? (c :: rest)).or (scanContinuation? (c :: rest)) with
        | some (escape, after) =>
          let run := go n after
          (escape ++ run.1, run.2)
        | none => ([], c :: rest)

/-- The inner part of an address, the whole text of it, and the rest. The text begins with the
word `url` and the bracket. -/
def scanUrl? (cs : List Char) : Option (List Char × List Char × List Char) :=
  let lead := ['u', 'r', 'l', '(']
  if lead.isPrefixOf cs then
    let inside := (cs.drop 4).dropWhile isBlank
    let taken (rest : List Char) : List Char := cs.take (cs.length - rest.length)
    match scanString? .all inside with
    | some (string, after) =>
      match after.dropWhile isBlank with
      | ')' :: rest => some (string, taken rest, rest)
      | _ => none
    | none =>
      match spanBareUrl inside with
      | (bare, ')' :: rest) => some (bare, taken rest, rest)
      | _ => none
  else none

/-- The text without its blanks and escaped line ends; escapes are kept whole. -/
def squeezeUrl (cs : List Char) : List Char :=
  go cs.length cs
where
  /-- At most `n` steps. -/
  go : Nat → List Char → List Char
    | 0, _ => []
    | _, [] => []
    | n + 1, c :: rest =>
      match scanEscape? (c :: rest), scanContinuation? (c :: rest) with
      | some (escape, after), _ => escape ++ go n after
      | none, some (_, after) => go n after
      | none, none => if isBlank c then go n rest else c :: go n rest

/-- The text is a quoted `data:` address whose media type does not end in `;base64`, so its blanks
belong to the data. -/
def isPlainData : List Char → Bool
  | quote :: d :: a :: t :: a' :: ':' :: rest =>
    (quote = '"' || quote = '\'') &&
      [d, a, t, a'].map Char.toLower == ['d', 'a', 't', 'a'] &&
        let type := rest.takeWhile fun c =>
          0x20 < c.toNat && c != '\\' && c != '"' && c != '\'' && c != ','
        (rest.drop type.length).head? == some ',' &&
          !(";base64".toList.isSuffixOf (type.map Char.toLower))
  | _ => false

/-! ## Words -/

/-- The at-rules whose block holds further rules. -/
def groupWords : List (List Char) :=
  ["media", "supports", "document", "keyframes", "-webkit-keyframes", "-moz-keyframes",
    "-o-keyframes", "-ms-keyframes"].map String.toList

/-- A word of the list at the start of a text, in any case, and the rest. -/
def scanWord? (words : List (List Char)) (cs : List Char) : Option (List Char × List Char) :=
  (words.find? fun word => word == (cs.take word.length).map Char.toLower).map fun word =>
    (cs.take word.length, cs.drop word.length)

/-- The keyword of a rule for a group at the start of a text, its at-sign included, and the
rest. -/
def scanGroupWord? : List Char → Option (List Char × List Char)
  | '@' :: rest =>
    match scanWord? groupWords rest with
    | some (word, after) =>
      if after.head?.any isNameChar then none else some ('@' :: word, after)
    | none => none
  | _ => none

/-- The pseudo part of a first line or letter at the start of a text, and the rest. -/
def scanFirstPart? (cs : List Char) : Option (List Char × List Char) :=
  scanWord? [":first-line".toList, ":first-letter".toList] cs

end CriticalCss.Minify
