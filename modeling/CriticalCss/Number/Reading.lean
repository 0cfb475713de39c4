/-!
# Reading decimal numbers

Decimal notation with an optional fraction and exponent, and the double nearest to such a
number. What counts as a digit is a parameter: some formats take the digits of every script.
-/

namespace CriticalCss.Number

/-- An unsigned decimal literal: the number `mantissa * 10 ^ exponent`. -/
structure Literal where
  mantissa : Nat
  exponent : Int
deriving DecidableEq, Repr

/-- The double nearest to `mantissa * 10 ^ exponent`. Numbers far out of range are not computed. -/
def Literal.toFloat (l : Literal) : Float :=
  let size : Int := (Nat.toDigits 10 l.mantissa).length + l.exponent
  if l.mantissa = 0 || size < -400 then 0.0
  else if 400 < size then 1.0 / 0.0
  else Float.ofScientific l.mantissa (l.exponent < 0) l.exponent.natAbs

/-- The value of an ASCII digit. -/
def asciiDigit? (c : Char) : Option Nat :=
  if c.isDigit then some (c.toNat - '0'.toNat) else none

/-- The digits at the start of a text, as a number and a count, and the text after them. -/
def readDigits (value? : Char → Option Nat) : List Char → Nat × Nat × List Char :=
  go 0 0
where
  go (number count : Nat) : List Char → Nat × Nat × List Char
    | [] => (number, count, [])
    | c :: rest =>
      match value? c with
      | some digit => go (number * 10 + digit) (count + 1) rest
      | none => (number, count, c :: rest)

/-- Digits, an optional fraction, at least one digit in all, and the text after them. -/
def readFixed? (value? : Char → Option Nat) (cs : List Char) : Option (Literal × List Char) :=
  let (whole, wholeCount, rest) := readDigits value? cs
  let (mantissa, places, rest) :=
    match rest with
    | '.' :: afterPoint =>
      let (fraction, places, afterFraction) := readDigits value? afterPoint
      (whole * Nat.pow 10 places + fraction, places, afterFraction)
    | _ => (whole, 0, rest)
  if wholeCount + places = 0 then none
  else some (⟨mantissa, -(places : Int)⟩, rest)

/-- A sign in front, as a flag for minus. -/
def readSign : List Char → Bool × List Char
  | '-' :: rest => (true, rest)
  | '+' :: rest => (false, rest)
  | cs => (false, cs)

/-- An exponent mark with at least one digit; without one the exponent is zero. -/
def readExponent (cs : List Char) : Int × List Char :=
  match cs with
  | mark :: rest =>
    if mark = 'e' || mark = 'E' then
      let (negative, digits) := readSign rest
      let (size, count, after) := readDigits asciiDigit? digits
      if count = 0 then (0, cs)
      else (if negative then -(size : Int) else size, after)
    else (0, cs)
  | [] => (0, cs)

def signed (negative : Bool) (x : Float) : Float :=
  if negative then -x else x

/-- A signed decimal with optional fraction and exponent that fills the whole text, in the digits
of any script that `value?` knows. -/
def readFloat? (value? : Char → Option Nat) (cs : List Char) : Option Float := do
  let (negative, unsigned) := readSign cs
  let (literal, rest) ← readFixed? value? unsigned
  let (power, rest) := readExponent rest
  guard rest.isEmpty
  return signed negative (Literal.toFloat ⟨literal.mantissa, literal.exponent + power⟩)

end CriticalCss.Number
