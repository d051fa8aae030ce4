import ResilientHttp.Decimal.Binary

/-!
# The shortest decimal of a binary fraction

A binary fraction is written with the fewest decimal digits that are read back as the same fraction.
The decimals that are read back as it are those between the midpoints to its two neighbours, the
midpoints included if the mantissa is even. For one digit, two digits and so on, the two decimals
next to the fraction on the grid of that many digits are tried; the first grid on which one of them
lies between the midpoints gives the digits, and of two the nearer one is taken.

If a decimal of the grid lies between the midpoints, then so does one of the two that are next to
the fraction; so no grid with a hit is passed over.

The digits are written with a point among them as long as the first digit stands at most five places
behind the point and at most sixteen before it, and with an exponent otherwise.
-/

set_option autoImplicit false

namespace ResilientHttp.Decimal

/-- The decimal number `digits * 10 ^ (scale - 400)`. -/
structure Digits where
  digits : Nat
  scale : Nat
  deriving DecidableEq, Repr

namespace Digits

/-- The scale at which the digits stand before the point. -/
def unitScale : Nat := 400

end Digits

namespace Shortest

/-! Fractions are compared as whole numbers of quarters of the unit `2 ^ -1074`. -/

/-- The fraction in quarters of the unit. -/
def quarters (binary : Binary) : Nat := 4 * binary.units

/-- The midpoint to the next larger fraction. -/
def upper (binary : Binary) : Nat := quarters binary + 2 * Nat.pow 2 binary.power

/-- The midpoint to the next smaller fraction, which is nearer where the mantissas start anew. -/
def lower (binary : Binary) : Nat :=
  if binary.mantissa = Binary.mantissaBound / 2 && binary.power ≠ 0 then
    quarters binary - Nat.pow 2 binary.power
  else quarters binary - 2 * Nat.pow 2 binary.power

/-- A decimal in quarters of the unit, over the denominator `10 ^ 400`. -/
def scaled (decimal : Digits) : Nat :=
  decimal.digits * Nat.pow 10 decimal.scale * (4 * Binary.unitsPerOne)

/-- The denominator of scaled decimals. -/
def denominator : Nat := Nat.pow 10 Digits.unitScale

/-- Whether a decimal is read back as the fraction. -/
def readsBack (binary : Binary) (decimal : Digits) : Bool :=
  let value := scaled decimal
  let low := lower binary * denominator
  let high := upper binary * denominator
  if binary.mantissa % 2 = 0 then low ≤ value && value ≤ high else low < value && value < high

/-- The largest scale at which the fraction has a digit before the point, looking down from the
given one. -/
def leadingScale (binary : Binary) : Nat → Nat
  | 0 => 0
  | scale + 1 =>
    if Nat.pow 10 (scale + 1) * (4 * Binary.unitsPerOne) ≤ quarters binary * denominator then
      scale + 1
    else leadingScale binary scale

/-- The decimal of the grid with the given scale at or below the fraction. -/
def below (binary : Binary) (scale : Nat) : Digits :=
  ⟨quarters binary * denominator / (Nat.pow 10 scale * (4 * Binary.unitsPerOne)), scale⟩

/-- The decimal of the grid that is read back, the nearer one if there are two. -/
def onGrid (binary : Binary) (scale : Nat) : Option Digits :=
  let low := below binary scale
  let high : Digits := ⟨low.digits + 1, scale⟩
  let value := quarters binary * denominator
  match readsBack binary low, readsBack binary high with
  | true, false => some low
  | false, true => some high
  | false, false => none
  | true, true =>
    let down := value - scaled low
    let up := scaled high - value
    if down < up || (down = up && low.digits % 2 = 0) then some low else some high

/-- Tries grids of more and more digits. -/
def search (binary : Binary) : Nat → Nat → Digits
  | 0, scale => below binary scale
  | more + 1, scale => (onGrid binary scale).getD (search binary more (scale - 1))

/-- The shortest decimal of a fraction that is not zero. -/
def ofBinary (binary : Binary) : Digits :=
  search binary 17 (leadingScale binary 709)

/-! ## Written form -/

/-- The smallest exponent written with a point. -/
def minPositional : Int := -5

/-- The exponent from which on no point is written. -/
def endPositional : Int := 16

/-- The digits of a decimal, without the zeros at their end. -/
def significant (digits : List Char) : List Char :=
  let kept := (digits.reverse.dropWhile (· = '0')).reverse
  if kept.isEmpty then ['0'] else kept

/-- An exponent with its sign. -/
def exponentText (exponent : Int) : List Char :=
  if exponent < 0 then 'e' :: '-' :: Nat.toDigits 10 exponent.natAbs
  else 'e' :: '+' :: Nat.toDigits 10 exponent.natAbs

/-- Digits with a point behind the first. -/
def pointed : List Char → List Char
  | [] => []
  | [digit] => [digit]
  | digit :: rest => digit :: '.' :: rest

/-- Digits with the point at a place given by the exponent of the first digit. -/
def positional (digits : List Char) (exponent : Int) : List Char :=
  if exponent < 0 then
    '0' :: '.' :: (List.replicate (exponent.natAbs - 1) '0' ++ digits)
  else
    let before := exponent.natAbs + 1
    let padded := digits ++ List.replicate (before - digits.length) '0'
    let after := padded.drop before
    padded.take before ++ '.' :: (if after.isEmpty then ['0'] else after)

/-- The written form of a decimal. -/
def write (decimal : Digits) : List Char :=
  let all := Nat.toDigits 10 decimal.digits
  let exponent : Int := (decimal.scale + all.length : Nat) - (Digits.unitScale + 1 : Nat)
  let digits := significant all
  if minPositional ≤ exponent && exponent < endPositional then positional digits exponent
  else pointed digits ++ exponentText exponent

/-- The written form of a fraction. -/
def text (binary : Binary) : List Char :=
  if binary.mantissa = 0 then ['0', '.', '0'] else write (ofBinary binary)

end Shortest

end ResilientHttp.Decimal
