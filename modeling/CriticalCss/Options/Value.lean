import CriticalCss.Json.Basic
import CriticalCss.Number.Reading
import CriticalCss.Options.Checked
import CriticalCss.Text.Blank

/-!
# Reading single option values

Options are lenient about how a value is written. A whole number may come as a flag, as a number
without a fraction or as text, a number also as text, and a flag also as zero, one or one of the
usual words. Text is never made from anything else.
-/

namespace CriticalCss

/-- A whole number above zero. -/
abbrev Positive : Type := { n : Nat // 0 < n }

instance {n : Nat} : OfNat Positive (n + 1) := ⟨⟨n + 1, Nat.succ_pos n⟩⟩

namespace OptionValue

/-- White space around a number: that of running text without the information separators. -/
def isPadding (c : Char) : Bool :=
  Text.isBlank c && !(0x1C ≤ c.toNat && c.toNat ≤ 0x1F)

/-- The text without padding at both ends. -/
def unpadded (s : String) : List Char :=
  ((s.toList.dropWhile isPadding).reverse.dropWhile isPadding).reverse

/-- The digits of a text of digits with single `_` between them. -/
def groupedDigits? : List Char → Option (List Char)
  | [] => none
  | [c] => if c.isDigit then some [c] else none
  | c :: '_' :: rest => if c.isDigit then (groupedDigits? rest).map (c :: ·) else none
  | c :: d :: rest => if c.isDigit then (groupedDigits? (d :: rest)).map (c :: ·) else none

/-- The digits that count in a text of digits: `_` groups them, and among zeros at the start any
number of them may stand. -/
def significant? (digits : List Char) : Option (List Char) :=
  match digits with
  | '0' :: _ =>
    match digits.dropWhile fun c => c == '0' || c == '_' with
    | [] => if digits.getLast? = some '0' then some ['0'] else none
    | rest => groupedDigits? rest
  | _ => groupedDigits? digits

/-- The sign and the digits of a whole number written in decimal, in which a fraction of zeros
may follow. -/
def wholeText? (s : String) : Option (Bool × List Char) := do
  let (negative, unsigned) := Number.readSign (unpadded s)
  let (whole, fraction) := unsigned.span (· != '.')
  guard ((fraction.drop 1).all (· == '0'))
  return (negative, ← significant? whole)

/-- The most digits that a whole number in a text may have. -/
def digitLimit : Nat := 4300

/-- Bound of the whole numbers that are taken from numbers with a fraction. -/
def wholeFloatBound : Float := 9223372036854775808.0

/-- A double without a fraction as a whole number. -/
def wholeOfFloat? (x : Float) : Option Int :=
  if x.floor == x && x.abs < wholeFloatBound then
    some (if x < 0 then -(x.abs.toUInt64.toNat : Int) else x.abs.toUInt64.toNat)
  else none

def whole : Json → Checked Int
  | .int n => .good n
  | .bool b => .good (if b then 1 else 0)
  | .float x =>
    if x.isNaN || x.isInf then .fail .notFinite
    else if x.floor != x then .fail .fractional
    else
      match wholeOfFloat? x with
      | some n => .good n
      | none => .fail .oversized
  | .str s =>
    match wholeText? s with
    | none => .fail .notWholeText
    | some (negative, digits) =>
      if digitLimit < digits.length then .fail .oversized
      else
        let size : Nat := (Number.readDigits Number.asciiDigit? digits).1
        .good (if negative then -(size : Int) else size)
  | _ => .fail .notWhole

def positive (j : Json) : Checked Positive :=
  (whole j).andThen fun n =>
    if h : 0 < n.toNat then .good ⟨n.toNat, h⟩ else .fail .notPositive

/-- A whole number that is not negative. -/
def natural (j : Json) : Checked Nat :=
  (whole j).andThen fun n => if n < 0 then .fail .negative else .good n.toNat

/-- The words for numbers that are not finite, with any letter case. -/
def wordOfFloat? (cs : List Char) : Option Float :=
  let word := String.ofList (cs.map Char.toLower)
  if word = "inf" || word = "infinity" then some (1.0 / 0.0)
  else if word = "nan" then some (0.0 / 0.0)
  else none

/-- A number in a text: decimal notation, or a word. -/
def floatText? (cs : List Char) : Option Float :=
  let (negative, unsigned) := Number.readSign cs
  (Number.readFloat? Number.asciiDigit? cs).orElse fun _ =>
    (wordOfFloat? unsigned).map (Number.signed negative)

/-- The text without its single `_`s, if it has some and none at an end. -/
def ungrouped? (s : String) : Option String :=
  let parts := Text.pieces (· == '_') s.toList
  if parts.length < 2 || parts.any (·.isEmpty) then none else some (String.ofList parts.flatten)

def number : Json → Checked Float
  | .float x => .good x
  | .bool b => .good (if b then 1.0 else 0.0)
  | .int n =>
    let x := Number.signed (n < 0) (Number.Literal.toFloat ⟨n.natAbs, 0⟩)
    if x.isInf then .fail .notNumber else .good x
  | .str s =>
    let read := (floatText? (unpadded s)).orElse fun _ =>
      (ungrouped? s).bind fun plain => floatText? (unpadded plain)
    match read with
    | some x => .good x
    | none => .fail .notNumberText
  | _ => .fail .notNumber

def positiveNumber (j : Json) : Checked Float :=
  (number j).andThen fun x => if x ≤ 0 then .fail .notPositive else .good x

/-- The words that stand for yes. -/
def yesWords : List String := ["1", "on", "t", "true", "y", "yes"]

/-- The words that stand for no. -/
def noWords : List String := ["0", "off", "f", "false", "n", "no"]

/-- Zero and one as a flag. -/
def flagOfWhole (n : Int) : Checked Bool :=
  if n = 0 then .good false else if n = 1 then .good true else .fail .notFlagText

/-- The whole numbers of 64 bits. -/
def isMachineWhole (n : Int) : Bool :=
  decide (-9223372036854775808 ≤ n) && decide (n < 9223372036854775808)

def flag : Json → Checked Bool
  | .bool b => .good b
  | .int n => if isMachineWhole n then flagOfWhole n else .fail .notFlag
  | .float x =>
    match wholeOfFloat? x with
    | some n => flagOfWhole n
    | none => .fail .notFlag
  | .str s =>
    let word := s.map Char.toLower
    if word ∈ yesWords then .good true
    else if word ∈ noWords then .good false
    else .fail .notFlagText
  | _ => .fail .notFlag

def text : Json → Checked String
  | .str s => .good s
  | _ => .fail .notText

/-- A text of a field that complains in words of its own. -/
def strictText (field : String) : Json → Checked String
  | .str s => .good s
  | j => .fail (.needsText field j.typeName)

/-- A value, or null for none. -/
def optional {α : Type} (read : Json → Checked α) : Json → Checked (Option α)
  | .null => .good none
  | j => (read j).map some

/-- The texts of a list, each checked at its index. -/
def textItems (items : List Json) : Checked (List String) :=
  .sequence (items.mapIdx fun i item => (text item).within (toString i))

def texts : Json → Checked (List String)
  | .arr items => textItems items
  | _ => .fail .notList

end OptionValue

end CriticalCss
