import CriticalCss.Number.Reading
import CriticalCss.Number.Shortest
import CriticalCss.Text.Alphanumeric
import CriticalCss.Text.Blank
import CriticalCss.Text.DecimalDigit

/-!
# The order of media conditions

Media rules are sorted by the first bound on a width or a height in their condition. Mobile-first
puts lower bounds on the width first, in ascending order, then those on the height, then upper
bounds on the width and on the height in descending order, then conditions without a bound, and
conditions that name `print` last. Desktop-first swaps lower and upper bounds and turns the order
of the numbers around. Letters are compared without regard to case; both foreign forms of the
letter `i` count as that letter in a keyword.
-/

namespace CriticalCss

/-- Which kinds of screens come first. -/
inductive MediaOrder where
  | mobileFirst
  | desktopFirst
deriving DecidableEq, Repr

/-- The order with a name; an unknown name means mobile-first. -/
def MediaOrder.ofName (name : String) : MediaOrder :=
  if name = "desktop-first" then .desktopFirst else .mobileFirst

/-- The place of a media condition: its kind, then a number within the kind. -/
structure MediaKey where
  rank : Nat
  value : Float
deriving DecidableEq, Repr

namespace MediaKey

/-- The order of places: by kind, then by number. -/
def le (a b : MediaKey) : Bool :=
  a.rank < b.rank || (a.rank = b.rank && Number.place a.value ≤ Number.place b.value)

theorem le_total (a b : MediaKey) : a.le b || b.le a := by
  simp only [le, Bool.or_eq_true, Bool.and_eq_true, decide_eq_true_eq]
  omega

theorem le_trans {a b c : MediaKey} (ab : a.le b) (bc : b.le c) : a.le c := by
  simp only [le, Bool.or_eq_true, Bool.and_eq_true, decide_eq_true_eq] at *
  omega

end MediaKey

namespace MediaCondition

/-! ## Words of a condition -/

/-- The character is the small letter `letter` in some case. -/
def isLetter (letter c : Char) : Bool :=
  c.toLower == letter || (letter == 'i' && (c == '\u0130' || c == '\u0131'))

/-- The characters that match the word at the start of a text, and the rest. -/
def scanWord? : (word text : List Char) → Option (List Char × List Char)
  | [], text => some ([], text)
  | _ :: _, [] => none
  | w :: word, c :: text =>
    if isLetter w c then (scanWord? word text).map fun (run, rest) => (c :: run, rest) else none

/-- The first of the words that a text begins with, as it stands there, and the rest. -/
def scanOneOf? (words : List (List Char)) (text : List Char) : Option (List Char × List Char) :=
  words.findSome? fun word => scanWord? word text

/-- The word `print` stands in the text between word boundaries; `inWord` tells whether a
character of a word stands before the text. -/
def namesPrint (inWord : Bool) : List Char → Bool
  | [] => false
  | c :: rest =>
    (!inWord &&
      (scanWord? "print".toList (c :: rest)).any fun (_, after) =>
        !after.head?.any Text.isWordChar) ||
      namesPrint (Text.isWordChar c) rest

/-! ## Bounds -/

/-- A bound on a width or a height. -/
structure Bound where
  /-- A lower bound; anything else that is matched counts as an upper bound. -/
  lower : Bool
  /-- A bound on the width; anything else that is matched counts as one on the height. -/
  width : Bool
  value : Float
deriving DecidableEq, Repr

/-- A letter of a unit, in any case, or a percent sign. -/
def isUnitChar (c : Char) : Bool :=
  c.isAlpha || c == '%' || c == '\u0130' || c == '\u0131' || c == '\u017f' || c == '\u212a'

/-- The number of pixels in one unit; unknown units count as pixels. -/
def unitFactor (unit : List Char) : Float :=
  if [['e', 'm'], ['r', 'e', 'm']].contains (unit.map Char.toLower) then 16.0 else 1.0

/-- The value of a number in a unit; zero if the digits and points make no number. -/
def boundValue (number unit : List Char) : Float :=
  match Number.readFloat? Text.decimalValue? number with
  | some value => value * unitFactor unit
  | none => 0.0

/-- A hyphen in front of a number, and digits and points. -/
def scanNumber? (cs : List Char) : Option (List Char × List Char) :=
  let (sign, unsigned) :=
    match cs with
    | '-' :: rest => (['-'], rest)
    | _ => ([], cs)
  let digits := unsigned.takeWhile fun c => Text.isDecimalDigit c || c == '.'
  if digits.isEmpty then none else some (sign ++ digits, unsigned.drop digits.length)

/-- The text from its first character that is not white space. -/
def skip (cs : List Char) : List Char :=
  cs.dropWhile Text.isBlank

/-- The bound in brackets at the start of a text. -/
def scanBound? : List Char → Option Bound
  | '(' :: inside => do
    let (extreme, rest) ← scanOneOf? ["min".toList, "max".toList] (skip inside)
    let rest ← Text.dropLead? ['-'] rest
    let (dimension, rest) ← scanOneOf? ["width".toList, "height".toList] rest
    let rest ← Text.dropLead? [':'] (skip rest)
    let (number, rest) ← scanNumber? (skip rest)
    let rest := skip rest
    let unit := rest.takeWhile isUnitChar
    let _ ← Text.dropLead? [')'] (skip (rest.drop unit.length))
    return ⟨extreme.map Char.toLower == "min".toList, dimension.map Char.toLower == "width".toList,
      boundValue number unit⟩
  | _ => none

/-- The first bound in a text. -/
def findBound? : List Char → Option Bound
  | [] => none
  | c :: rest => (scanBound? (c :: rest)).or (findBound? rest)

/-- The place of a bound in the mobile-first order. -/
def Bound.key (b : Bound) : MediaKey :=
  if b.lower then ⟨if b.width then 0 else 1, b.value⟩
  else ⟨if b.width then 2 else 3, -b.value⟩

/-- The bound with lower and upper swapped and its number turned around. -/
def Bound.swap (b : Bound) : Bound :=
  { b with lower := !b.lower, value := -b.value }

/-- The place of a condition in an order. -/
def key (order : MediaOrder) (media : String) : MediaKey :=
  if namesPrint false media.toList then ⟨5, 0.0⟩
  else
    match findBound? media.toList with
    | none => ⟨4, 0.0⟩
    | some bound =>
      match order with
      | .mobileFirst => bound.key
      | .desktopFirst => bound.swap.key

end MediaCondition

end CriticalCss
