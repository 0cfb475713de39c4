import CriticalCss.Json.Basic
import CriticalCss.Number.Reading

/-!
# Reading JSON text

A reader for JSON text. A member named twice keeps its first place and its last value. Where a
text is not JSON, the failure tells how many characters were left at the place of the fault, from
which `parse` computes the place itself. Every reader returns a rest that is shorter than its
input, so reading ends.
-/

namespace CriticalCss.Json

namespace Reader

/-- A rest of `cs` that at least one character has been taken from. -/
abbrev Shorter (cs : List Char) : Type :=
  { rest : List Char // rest.length < cs.length }

/-- What reading from `cs` gives: a value and the rest, or the count of characters left at the
fault. -/
abbrev Reading (α : Type) (cs : List Char) : Type :=
  Except Nat (α × Shorter cs)

/-- White space between the parts of a JSON text. -/
def isSpace (c : Char) : Bool :=
  c == ' ' || c == '\n' || c == '\r' || c == '\t'

/-- The text from its first character that is not white space. -/
def skip (cs : List Char) : List Char :=
  cs.dropWhile isSpace

theorem length_skip_le (cs : List Char) : (skip cs).length ≤ cs.length :=
  (List.dropWhile_sublist isSpace).length_le

theorem length_lt_of_skip {cs rest : List Char} {c : Char} (shape : skip cs = c :: rest) :
    rest.length < cs.length := by
  have := length_skip_le cs
  simp [shape] at this
  omega

/-- A reading from a part of `cs`, seen as one from `cs`, with the value mapped. -/
def Reading.within {α β : Type} {part cs : List Char} (bound : part.length ≤ cs.length)
    (f : α → β) : Reading α part → Reading β cs
  | .error left => .error left
  | .ok (a, ⟨rest, shorter⟩) => .ok (f a, ⟨rest, by omega⟩)

/-- The value of a hexadecimal digit. -/
def hexValue? (c : Char) : Option Nat :=
  if c.isDigit then some (c.toNat - 48)
  else if 'a' ≤ c ∧ c ≤ 'f' then some (c.toNat - 87)
  else if 'A' ≤ c ∧ c ≤ 'F' then some (c.toNat - 55)
  else none

/-- The value of four hexadecimal digits. -/
def unit? (a b c d : Char) : Option Nat := do
  return ((← hexValue? a) * 16 + (← hexValue? b)) * 256 + (← hexValue? c) * 16 + (← hexValue? d)

/-- The character that a letter stands for after a backslash. -/
def escaped? : Char → Option Char
  | '"' => some '"'
  | '\\' => some '\\'
  | '/' => some '/'
  | 'b' => some '\x08'
  | 'f' => some '\x0c'
  | 'n' => some '\n'
  | 'r' => some '\r'
  | 't' => some '\t'
  | _ => none

/-- The character of a pair of UTF-16 units. -/
def ofPair (high low : Nat) : Char :=
  Char.ofNat (0x10000 + (high - 0xD800) * 0x400 + (low - 0xDC00))

/-- The characters of a string literal up to its closing quote, which is taken too. -/
def stringBody : (cs : List Char) → Reading (List Char) cs
  | [] => .error 0
  | '"' :: rest => .ok ([], ⟨rest, by simp⟩)
  | '\\' :: 'u' :: a :: b :: c :: d :: '\\' :: 'u' :: e :: f :: g :: h :: rest =>
    match unit? a b c d, unit? e f g h with
    | some high, some low =>
      if 0xD800 ≤ high ∧ high < 0xDC00 ∧ 0xDC00 ≤ low ∧ low < 0xE000 then
        (stringBody rest).within (by simp; omega) (ofPair high low :: ·)
      else
        (stringBody ('\\' :: 'u' :: e :: f :: g :: h :: rest)).within (by simp)
          (ofUnit high :: ·)
    | some high, none =>
      (stringBody ('\\' :: 'u' :: e :: f :: g :: h :: rest)).within (by simp)
        (ofUnit high :: ·)
    | none, _ => .error (rest.length + 11)
  | '\\' :: 'u' :: a :: b :: c :: d :: rest =>
    match unit? a b c d with
    | some unit => (stringBody rest).within (by simp; omega) (ofUnit unit :: ·)
    | none => .error (rest.length + 5)
  | '\\' :: c :: rest =>
    match escaped? c with
    | some plain => (stringBody rest).within (by simp; omega) (plain :: ·)
    | none => .error (rest.length + 2)
  | c :: rest =>
    if c.toNat < 0x20 then .error (rest.length + 1)
    else (stringBody rest).within (by simp) (c :: ·)
where
  /-- The character of a single UTF-16 unit; half of a pair has none of its own. -/
  ofUnit (unit : Nat) : Char :=
    if 0xD800 ≤ unit ∧ unit < 0xE000 then '\ufffd' else Char.ofNat unit

/-- A number: an integer if it has neither a fraction nor an exponent. -/
def number? (cs : List Char) : Option (Json × List Char) := do
  let (negative, unsigned) :=
    match cs with
    | '-' :: rest => (true, rest)
    | _ => (false, cs)
  let (whole, count, rest) ←
    match unsigned with
    | '0' :: rest => some (0, 1, rest)
    | _ => some (Number.readDigits Number.asciiDigit? unsigned)
  guard (0 < count)
  let (mantissa, places, rest) :=
    match rest with
    | '.' :: afterPoint =>
      let (fraction, places, after) := Number.readDigits Number.asciiDigit? afterPoint
      if places = 0 then (whole, 0, rest) else (whole * Nat.pow 10 places + fraction, places, after)
    | _ => (whole, 0, rest)
  let (power, afterPower) := Number.readExponent rest
  if places = 0 && afterPower.length = rest.length then
    return (int (if negative then -(whole : Int) else whole), rest)
  else
    let literal : Number.Literal := ⟨mantissa, power - places⟩
    return (float (Number.signed negative literal.toFloat), afterPower)

def wordValues : List (List Char × Json) :=
  [(['n', 'u', 'l', 'l'], null), (['t', 'r', 'u', 'e'], bool true),
    (['f', 'a', 'l', 's', 'e'], bool false), (['N', 'a', 'N'], float (0.0 / 0.0)),
    (['I', 'n', 'f', 'i', 'n', 'i', 't', 'y'], float (1.0 / 0.0)),
    (['-', 'I', 'n', 'f', 'i', 'n', 'i', 't', 'y'], float (-1.0 / 0.0))]

def scalar? (cs : List Char) : Option (Json × List Char) :=
  match wordValues.find? fun (word, _) => word.isPrefixOf cs with
  | some (word, value) => some (value, cs.drop word.length)
  | none => number? cs

/-- A string literal whose opening quote has been taken; one without an end is at fault at its
start. -/
def literal (cs : List Char) : Reading String cs :=
  match stringBody cs with
  | .error 0 => .error (cs.length + 1)
  | body => body.within (Nat.le_refl _) String.ofList

mutual

/-- A value, white space before it skipped. -/
def value (cs : List Char) : Reading Json cs :=
  match shape : skip cs with
  | '"' :: rest => (literal rest).within (Nat.le_of_lt (length_lt_of_skip shape)) str
  | '[' :: rest =>
    match closing : skip rest with
    | ']' :: after =>
      .ok (arr [], ⟨after, Nat.lt_trans (length_lt_of_skip closing) (length_lt_of_skip shape)⟩)
    | _ => (items rest).within (Nat.le_of_lt (length_lt_of_skip shape)) arr
  | '\x7b' :: rest =>
    match closing : skip rest with
    | '\x7d' :: after =>
      .ok (obj [], ⟨after, Nat.lt_trans (length_lt_of_skip closing) (length_lt_of_skip shape)⟩)
    | _ => (members [] rest).within (Nat.le_of_lt (length_lt_of_skip shape)) obj
  | start =>
    match scalar? start with
    | some (j, after) =>
      if shorter : after.length < start.length then
        .ok (j, ⟨after, by have := length_skip_le cs; rw [shape] at this; omega⟩)
      else .error start.length
    | none => .error start.length
termination_by (cs.length, 1)
decreasing_by
  all_goals
    have := length_lt_of_skip shape
    omega

/-- The items of an array, from the first one to the closing bracket. -/
def items (cs : List Char) : Reading (List Json) cs :=
  match value cs with
  | .error left => .error left
  | .ok (first, ⟨after, shorter⟩) =>
    match shape : skip after with
    | ']' :: rest => .ok ([first], ⟨rest, Nat.lt_trans (length_lt_of_skip shape) shorter⟩)
    | ',' :: rest =>
      (items rest).within (Nat.le_of_lt (Nat.lt_trans (length_lt_of_skip shape) shorter))
        (first :: ·)
    | other => .error other.length
termination_by (cs.length, 2)
decreasing_by
  · exact Prod.Lex.right _ (by omega)
  · have := length_lt_of_skip shape
    omega

/-- The members of an object, from the first one to the closing brace, added to those known. -/
def members (known : List (String × Json)) (cs : List Char) : Reading (List (String × Json)) cs :=
  match shape : skip cs with
  | '"' :: rest =>
    match literal rest with
    | .error left => .error left
    | .ok (name, ⟨afterName, shorterName⟩) =>
      match colon : skip afterName with
      | ':' :: afterColon =>
        match value afterColon with
        | .error left => .error left
        | .ok (j, ⟨afterValue, shorterValue⟩) =>
          have toValue : afterValue.length < cs.length := by
            have := length_lt_of_skip shape
            have := length_lt_of_skip colon
            omega
          match separator : skip afterValue with
          | '\x7d' :: rest =>
            .ok (setMember name j known,
              ⟨rest, Nat.lt_trans (length_lt_of_skip separator) toValue⟩)
          | ',' :: rest =>
            (members (setMember name j known) rest).within
              (Nat.le_of_lt (Nat.lt_trans (length_lt_of_skip separator) toValue)) id
          | other => .error other.length
      | other => .error other.length
  | other => .error other.length
termination_by (cs.length, 2)
decreasing_by
  · have := length_lt_of_skip shape
    have := length_lt_of_skip colon
    omega
  · have := length_lt_of_skip separator
    omega

end

end Reader

/-- Reads a text that holds one value and white space. On failure, the index of the fault. -/
def parse (cs : List Char) : Except Nat Json :=
  match Reader.value cs with
  | .error left => .error (cs.length - left)
  | .ok (j, ⟨after, _⟩) =>
    match Reader.skip after with
    | [] => .ok j
    | extra => .error (cs.length - extra.length)

end CriticalCss.Json
