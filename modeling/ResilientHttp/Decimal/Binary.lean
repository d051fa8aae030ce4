/-!
# Binary fractions of 53 bits

A real number of a document is kept as a binary fraction `mantissa * 2 ^ exponent` whose mantissa
has at most 53 bits and whose exponent is at least `-1074`. Every other number is replaced by the
nearest such fraction, and of two equally near ones by the one with the even mantissa. Numbers that
would need an exponent above `971` are too large.

All arithmetic is exact on natural numbers: a number to be rounded is given as a quotient of two.
-/

set_option autoImplicit false

namespace ResilientHttp.Decimal

/-- The fraction `mantissa * 2 ^ (power - 1074)`. -/
structure Binary where
  mantissa : Nat
  power : Nat
  deriving DecidableEq, Repr

namespace Binary

/-- The bound of the mantissas. -/
def mantissaBound : Nat := 9007199254740992

/-- The power at which the exponent is zero. -/
def bias : Nat := 1074

/-- The largest power. -/
def maxPower : Nat := 2045

/-- Zero. -/
def zero : Binary := ⟨0, 0⟩

/-- The quotient of two numbers rounded to a whole number, a half to the even neighbour. -/
def divRound (numerator denominator : Nat) : Nat :=
  let whole := numerator / denominator
  let rest := 2 * (numerator % denominator)
  if denominator < rest || (rest = denominator && whole % 2 = 1) then whole + 1 else whole

/-- The power for which the quotient has a mantissa of 53 bits, as near as the lengths of the two
numbers tell, and at least zero. -/
def powerGuess (numerator denominator : Nat) : Nat :=
  numerator.log2 + bias - (denominator.log2 + 53)

/-- The mantissa of a quotient at a power, rounded. -/
def mantissaAt (numerator denominator power : Nat) : Nat :=
  if bias ≤ power then divRound numerator (denominator * Nat.pow 2 (power - bias))
  else divRound (numerator * Nat.pow 2 (bias - power)) denominator

/-- Whether the mantissa of a quotient at a power, before rounding, is below the bound. -/
def fits (numerator denominator power : Nat) : Bool :=
  if bias ≤ power then numerator < mantissaBound * (denominator * Nat.pow 2 (power - bias))
  else numerator * Nat.pow 2 (bias - power) < mantissaBound * denominator

/-- The fraction nearest to a quotient, or nothing if it is too large. -/
def ofQuotient (numerator denominator : Nat) : Option Binary :=
  let guess := powerGuess numerator denominator
  let power := if fits numerator denominator guess then guess else guess + 1
  let mantissa := mantissaAt numerator denominator power
  let rounded : Binary :=
    if mantissa = mantissaBound then ⟨mantissa / 2, power + 1⟩ else ⟨mantissa, power⟩
  if rounded.power ≤ maxPower then some rounded else none

/-- The numerator of the fraction, over the denominator `2 ^ 1074`. -/
def units (binary : Binary) : Nat := binary.mantissa * Nat.pow 2 binary.power

/-- The denominator of all fractions. -/
def unitsPerOne : Nat := Nat.pow 2 bias

/-- The fraction nearest to a number. -/
def ofNat (number : Nat) : Option Binary := ofQuotient number 1

/-- The product of two fractions, or nothing if it is too large. -/
def mul (left right : Binary) : Option Binary :=
  ofQuotient (left.units * right.units) (unitsPerOne * unitsPerOne)

/-- The quotient of two fractions, or nothing if it is too large. -/
def div (left right : Binary) : Option Binary :=
  ofQuotient left.units right.units

/-- A power of ten. -/
def tenTo (exponent : Nat) : Option Binary := ofNat (Nat.pow 10 exponent)

end Binary

end ResilientHttp.Decimal
