import Outdent.Text.Basic

/-!
# Decimal text of binary fractions

A float is a natural number times a power of two. It is written with the fewest decimal digits that
read back to it; of several such numbers the one next to it is taken. All of it is exact arithmetic
on natural numbers.
-/
namespace Outdent.Text

/-- A positive number `mantissa · 2 ^ exponent`, and whether it is the least of its power of two, so
that the float below it is only half as far away as the float above it. -/
structure Binary where
  /-- The whole factor. -/
  mantissa : Nat
  /-- The power of two. -/
  exponent : Int
  /-- The float below is nearer than the float above. -/
  least : Bool

namespace Binary

/-- Numerator of a number over `denominator`. -/
def numerator (binary : Binary) : Nat := binary.mantissa * Nat.pow 2 binary.exponent.toNat

/-- Denominator of a number. -/
def denominator (binary : Binary) : Nat := Nat.pow 2 (-binary.exponent).toNat

/-- A decimal `digits · 10 ^ power` times four, over the denominators of both numbers. -/
def decimalTimesFour (binary : Binary) (digits : Nat) (power : Int) : Nat :=
  4 * digits * Nat.pow 10 power.toNat * binary.denominator

/-- The number plus some quarters of its last binary place, times four, over the denominators of
both numbers. -/
def quartersTimesFour (binary : Binary) (quarters : Int) (power : Int) : Nat :=
  (4 * binary.mantissa + quarters).toNat * Nat.pow 2 binary.exponent.toNat *
    Nat.pow 10 (-power).toNat

/-- Is a decimal read back as the number? The ends of the interval belong to it if the mantissa is
even. -/
def reads (binary : Binary) (digits : Nat) (power : Int) : Bool :=
  let value := binary.decimalTimesFour digits power
  let low := binary.quartersTimesFour (if binary.least then -1 else -2) power
  let high := binary.quartersTimesFour 2 power
  if binary.mantissa % 2 = 0 then low ≤ value && value ≤ high else low < value && value < high

/-- The distance of a decimal from the number, times four, over the denominators of both. -/
def distance (binary : Binary) (digits : Nat) (power : Int) : Nat :=
  let value := binary.decimalTimesFour digits power
  let exact := binary.quartersTimesFour 0 power
  (value - exact) + (exact - value)

/-- The decimal of a power of ten next to the number, if it is read back as the number. -/
def shortestAt (binary : Binary) (power : Int) : Option Nat :=
  let below := binary.numerator * Nat.pow 10 (-power).toNat /
    (binary.denominator * Nat.pow 10 power.toNat)
  match binary.reads below power, binary.reads (below + 1) power with
  | true, true =>
    if binary.distance (below + 1) power < binary.distance below power ∨
      (binary.distance (below + 1) power = binary.distance below power ∧ below % 2 = 1) then
      some (below + 1) else some below
  | true, false => some below
  | false, true => some (below + 1)
  | false, false => none

/-- Digits and power of ten of the shortest decimal, looked for from a power of ten on downwards. -/
def shortestFrom (binary : Binary) : Nat → Int → Nat × Int
  | 0, power => (binary.mantissa, power)
  | fuel + 1, power =>
    match binary.shortestAt power with
    | some 0 => shortestFrom binary fuel (power - 1)
    | some digits => (digits, power)
    | none => shortestFrom binary fuel (power - 1)

/-- Digits and power of ten of the shortest decimal that is read back as the number. No float is as
great as ten to the power of 309, and all are whole multiples of ten to the power of -1074. -/
def shortest (binary : Binary) : Nat × Int := shortestFrom binary 1400 309

end Binary

/-- The parts of a float: its sign, and a number if it is positive and finite, up to sign. -/
inductive FloatParts where
  /-- Not a number. -/
  | undefined
  /-- Beyond all numbers. -/
  | infinite (negative : Bool)
  /-- Zero. -/
  | zero (negative : Bool)
  /-- A number other than zero. -/
  | finite (negative : Bool) (binary : Binary)

/-- The parts that the bits of a float stand for. -/
def FloatParts.ofFloat (float : Float) : FloatParts :=
  let bits : Nat := float.toBits.toNat
  let negative := Nat.pow 2 63 ≤ bits
  let power : Nat := bits / Nat.pow 2 52 % Nat.pow 2 11
  let fraction : Nat := bits % Nat.pow 2 52
  if power = 2047 then if fraction = 0 then .infinite negative else .undefined
  else if power = 0 then
    if fraction = 0 then .zero negative else .finite negative ⟨fraction, -1074, false⟩
  else .finite negative ⟨Nat.pow 2 52 + fraction, Int.ofNat power - 1075, fraction == 0 && 1 < power⟩

/-- Where decimals are written with a power of ten, and how. -/
structure DecimalLayout where
  /-- The least power of ten of a first digit that is written without an exponent. -/
  leastPlain : Int
  /-- The least power of ten of a first digit that is written with an exponent again. -/
  firstExponent : Int
  /-- The least number of digits of an exponent. -/
  exponentWidth : Nat

/-- Decimals from a ten thousandth to less than ten to the power of 16 have no exponent; exponents
have a sign and at least two digits. -/
def plainLayout : DecimalLayout := ⟨-4, 16, 2⟩

/-- Digits without zeros at the end, and their power of ten. -/
def withoutZeros (fuel digits : Nat) (power : Int) : Nat × Int :=
  match fuel with
  | 0 => (digits, power)
  | fuel + 1 =>
    if digits % 10 = 0 && digits != 0 then withoutZeros fuel (digits / 10) (power + 1)
    else (digits, power)

/-- A positive decimal in a layout. A whole number without an exponent has a zero behind its
point. -/
def layOut (layout : DecimalLayout) (digits : Nat) (power : Int) : Text :=
  let (digits, power) := withoutZeros 400 digits power
  let written := ofNat digits
  let first := power + written.length - 1
  if layout.leastPlain ≤ first && first < layout.firstExponent then
    if 0 ≤ power then written ++ List.replicate power.toNat '0' ++ ['.', '0']
    else
      let places := (-power).toNat
      if places < written.length then
        written.take (written.length - places) ++ '.' :: written.drop (written.length - places)
      else '0' :: '.' :: List.replicate (places - written.length) '0' ++ written
  else
    let point := match written with
      | _ :: next :: rest => '.' :: next :: rest
      | _ => []
    let exponent := ofNat first.natAbs
    written.take 1 ++ point ++ ['e', if first < 0 then '-' else '+'] ++
      List.replicate (layout.exponentWidth - exponent.length) '0' ++ exponent

/-- A sign in front of a text. -/
def signed (negative : Bool) (text : Text) : Text := if negative then '-' :: text else text

/-- A float in decimal. -/
def ofFloat (float : Float) : Text :=
  match FloatParts.ofFloat float with
  | .undefined => "nan"
  | .infinite negative => signed negative "inf"
  | .zero negative => signed negative "0.0"
  | .finite negative binary =>
    let (digits, power) := binary.shortest
    signed negative (layOut plainLayout digits power)

/-- The integer that a float is, if it is one. -/
def integerOfFloat? (float : Float) : Option Int :=
  match FloatParts.ofFloat float with
  | .zero _ => some 0
  | .finite negative binary =>
    if binary.numerator % binary.denominator = 0 then
      let value := Int.ofNat (binary.numerator / binary.denominator)
      some (if negative then -value else value)
    else none
  | _ => none

/-- The float of a decimal with a sign. An exponent beyond all floats is cut down before it is
used. -/
def floatOfDecimal (negative : Bool) (digits : Nat) (power : Int) : Float :=
  let length : Int := (ofNat digits).length
  let float :=
    if digits = 0 || power + length < -400 then 0.0
    else if 400 < power + length then 1.0 / 0.0
    else Float.ofScientific digits (power < 0) power.natAbs
  if negative then -float else float

end Outdent.Text
