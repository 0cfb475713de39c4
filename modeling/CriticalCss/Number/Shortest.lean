/-!
# The fewest decimal digits that read back

A double stands for a whole interval of reals, those that are rounded to it. Of the decimals in
that interval one with the fewest digits is written, and of those the one nearest to the double.
`Binary.digits?` finds it by trying one digit, two digits and so on up to seventeen, which always
suffice; on the grid of a given number of digits only the two neighbours of the value can be the
nearest hit. All arithmetic is exact.
-/

namespace CriticalCss.Number

/-- A positive finite double as `mantissa * 2 ^ exponent`. The flag says that the next double
below is only half as far away as the next one above, which is so at powers of two. -/
structure Binary where
  mantissa : Nat
  exponent : Int
  narrowBelow : Bool
deriving DecidableEq, Repr

/-- A decimal `digits * 10 ^ exponent`. -/
structure Decimal where
  digits : Nat
  exponent : Int
deriving DecidableEq, Repr

/-- The two factors of `base ^ e` on the sides of a fraction: one of them is `1`. -/
def powers (base : Nat) (e : Int) : Nat × Nat :=
  (Nat.pow base e.toNat, Nat.pow base (-e).toNat)

namespace Binary

/-- The magnitude of a finite double given by its bits, the sign bit left out. -/
def ofBits (bits : Nat) : Binary :=
  let fraction : Nat := bits % Nat.pow 2 52
  let field : Nat := bits / Nat.pow 2 52 % Nat.pow 2 11
  if field = 0 then ⟨fraction, -1074, false⟩
  else ⟨Nat.pow 2 52 + fraction, (field : Int) - 1075, fraction == 0 && field != 1⟩

/-- The number of decimal digits before the point; zero or less for values below one tenth. -/
def pointPlace (b : Binary) : Int :=
  let (up, down) := powers 2 b.exponent
  ((Nat.toDigits 10 (b.mantissa * up * Nat.pow 10 400 / down)).length : Int) - 400

/-- The multiple of `10 ^ grid` that is rounded to the double, the nearer one if both neighbours
of the value are, and the even one of two equally near. -/
def onGrid? (b : Binary) (grid : Int) : Option Nat :=
  let (up, down) := powers 2 (b.exponent - 2)
  let (gridUp, gridDown) := powers 10 grid
  let scale := up * gridDown
  let unit := down * gridUp
  let value := 4 * b.mantissa * scale
  let low := (4 * b.mantissa - if b.narrowBelow then 1 else 2) * scale
  let high := (4 * b.mantissa + 2) * scale
  let hits (n : Nat) : Bool :=
    if b.mantissa % 2 = 0 then low ≤ n * unit && n * unit ≤ high
    else low < n * unit && n * unit < high
  let below := value / unit
  let above := below + 1
  if hits below && hits above then
    let toBelow := value - below * unit
    let toAbove := above * unit - value
    if toBelow < toAbove then some below
    else if toAbove < toBelow then some above
    else if below % 2 = 0 then some below
    else some above
  else if hits below then some below
  else if hits above then some above
  else none

/-- The shortest decimal that reads back as the double. -/
def digits? (b : Binary) : Option Decimal :=
  let place := b.pointPlace
  (List.range 17).findSome? fun n =>
    let grid := place - (n + 1 : Nat)
    (b.onGrid? grid).map fun digits => ⟨digits, grid⟩

end Binary

/-- The digits of a decimal without zeros at the end, and the place of the point relative to the
first digit. -/
def Decimal.significant (d : Decimal) : List Char × Int :=
  let all := Nat.toDigits 10 d.digits
  let digits := (all.reverse.dropWhile (· == '0')).reverse
  (digits, (all.length : Int) + d.exponent)

/-- Writes digits with the point at the given place. Numbers from one ten-thousandth up to ten
thousand million million are written out, always with a point; others with an exponent of at
least two digits. -/
def layout (digits : List Char) (place : Int) : List Char :=
  if -4 < place && place ≤ 16 then
    if place ≤ 0 then
      '0' :: '.' :: List.replicate (-place).toNat '0' ++ digits
    else
      let whole := place.toNat
      if digits.length ≤ whole then
        digits ++ List.replicate (whole - digits.length) '0' ++ ['.', '0']
      else
        digits.take whole ++ '.' :: digits.drop whole
  else
    let lead := digits.take 1 ++ (if digits.length ≤ 1 then [] else '.' :: digits.drop 1)
    let power := place - 1
    let size := Nat.toDigits 10 power.natAbs
    let padded := if size.length < 2 then '0' :: size else size
    lead ++ 'e' :: (if power < 0 then '-' else '+') :: padded

/-- The text of a double: the fewest digits that read back. -/
def text (x : Float) : List Char :=
  let bits := x.toBits.toNat
  let sign := if bits / Nat.pow 2 63 = 1 then ['-'] else []
  let magnitude := bits % Nat.pow 2 63
  if magnitude / Nat.pow 2 52 = 2047 then
    if magnitude % Nat.pow 2 52 = 0 then sign ++ ['i', 'n', 'f'] else ['n', 'a', 'n']
  else if magnitude = 0 then sign ++ ['0', '.', '0']
  else
    match (Binary.ofBits magnitude).digits? with
    | some d =>
      let (digits, place) := d.significant
      sign ++ layout digits place
    | none => sign

/-- A place of a double in the order of numbers: both zeros have place zero, and a number is less
than another exactly when its place is. -/
def place (x : Float) : Int :=
  let bits := x.toBits.toNat
  if bits / Nat.pow 2 63 = 1 then -((bits % Nat.pow 2 63 : Nat) : Int) else (bits : Int)

end CriticalCss.Number
