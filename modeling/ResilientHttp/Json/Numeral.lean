import ResilientHttp.Json.Cursor

/-!
# Reading numbers

A numeral is a whole number without leading zeros, perhaps with a fraction and an exponent. Without
fraction and exponent it is a whole number of 64 bits if it fits.

Every other numeral is read as a binary fraction in two steps: as many of its digits as fit into 64
bits are taken as a whole number, the others are dropped, and the result is multiplied or divided by
a power of ten. Each step rounds to the nearest fraction, so a numeral with many digits may be read
as a neighbour of the nearest fraction.
-/

set_option autoImplicit false

namespace ResilientHttp.Json

open Decimal (Binary)

namespace Numeral

/-- Whether a byte is a decimal digit. -/
def isDigit (byte : UInt8) : Bool := 0x30 ≤ byte && byte ≤ 0x39

/-- The value of a digit. -/
def digitValue (byte : UInt8) : Nat := byte.toNat - 0x30

/-- The largest whole number of 64 bits. -/
def maxWhole : Nat := 18446744073709551615

/-- The largest exponent that is counted. -/
def maxExponent : Nat := 2147483647

/-- The largest distance from zero of a negative whole number. -/
def maxNegative : Nat := 9223372036854775808

/-- Appends digits to a number as long as it stays within a bound; the second result is how many
digits were appended. -/
def accumulate (bound : Nat) (number : Nat) : Bytes → Nat × Nat
  | [] => (number, 0)
  | digit :: rest =>
    let next := number * 10 + digitValue digit
    if bound < next then (number, 0)
    else
      let (final, count) := accumulate bound next rest
      (final, count + 1)

/-- The largest power of ten by which is multiplied or divided at once. -/
def maxStep : Nat := 308

/-- Divides by powers of ten; a divisor that is too large is taken in several steps. -/
def divideByTens : Nat → Binary → Nat → Option Binary
  | 0, _, _ => some Binary.zero
  | fuel + 1, fraction, exponent =>
    if exponent ≤ maxStep then do fraction.div (← Binary.tenTo exponent)
    else if fraction.mantissa = 0 then some Binary.zero
    else do divideByTens fuel (← fraction.div (← Binary.tenTo maxStep)) (exponent - maxStep)

/-- The fraction for a whole number times a power of ten, or nothing if it is too large. -/
def scale (whole : Nat) (exponent : Int) : Option Binary := do
  let fraction ← Binary.ofNat whole
  if exponent < 0 then divideByTens 4 fraction exponent.natAbs
  else if exponent.natAbs ≤ maxStep then fraction.mul (← Binary.tenTo exponent.natAbs)
  else if fraction.mantissa = 0 then some Binary.zero
  else none

/-- The number for a whole number times a power of ten. -/
def finish (isNegative : Bool) (whole : Nat) (exponent : Int) (cursor : Cursor) :
    Except Fault (Number × Cursor) :=
  match scale whole exponent with
  | some magnitude => .ok (.real isNegative magnitude, cursor)
  | none => .error (cursor.faultHere .numberOutOfRange)

/-- Reads an exponent, from behind the letter. -/
def readExponent (isNegative : Bool) (whole : Nat) (start : Int) (cursor : Cursor) :
    Except Fault (Number × Cursor) :=
  let (isUp, signed) := match cursor.peek? with
    | some 0x2b => (true, cursor.advance)
    | some 0x2d => (false, cursor.advance)
    | _ => (true, cursor)
  match signed.peek? with
  | none => .error (signed.faultHere .endInValue)
  | some first =>
    if isDigit first then
      let (digits, after) := signed.takeWhile isDigit
      let (exponent, used) := accumulate maxExponent 0 digits
      if used < digits.length then
        if whole ≠ 0 && isUp then
          .error ((signed.advanceBy (used + 1)).faultHere .numberOutOfRange)
        else .ok (.real isNegative Binary.zero, after)
      else finish isNegative whole (if isUp then start + exponent else start - exponent) after
    else .error (signed.advance.faultHere .invalidNumber)

/-- Whether a byte introduces an exponent. -/
def isExponentMark (byte : Option UInt8) : Bool := byte = some 0x65 || byte = some 0x45

/-- Reads a fraction, from behind the point. -/
def readFraction (isNegative : Bool) (whole dropped : Nat) (cursor : Cursor) :
    Except Fault (Number × Cursor) :=
  let (digits, after) := cursor.takeWhile isDigit
  if digits.isEmpty then
    match after.peek? with
    | some _ => .error (after.faultNext .invalidNumber)
    | none => .error (after.faultNext .endInValue)
  else
    let (longer, used) := accumulate maxWhole whole digits
    let exponent : Int := (dropped : Int) - used
    if isExponentMark after.peek? then readExponent isNegative longer exponent after.advance
    else finish isNegative longer exponent after

/-- A whole number with its sign. -/
def signed (isNegative : Bool) (whole : Nat) : Number :=
  if isNegative then
    if whole = 0 || maxNegative < whole then
      .real true ((Binary.ofNat whole).getD Binary.zero)
    else .negative whole
  else .natural whole

/-- Reads a number, from behind the sign. -/
def read (isNegative : Bool) (cursor : Cursor) : Except Fault (Number × Cursor) :=
  let (digits, after) := cursor.takeWhile isDigit
  match digits with
  | [] =>
    match cursor.peek? with
    | none => .error (cursor.faultHere .endInValue)
    | some _ => .error (cursor.advance.faultHere .invalidNumber)
  | first :: others =>
    if first = 0x30 && !others.isEmpty then .error (cursor.advance.faultNext .invalidNumber)
    else
      let (whole, used) := accumulate maxWhole 0 digits
      let dropped := digits.length - used
      if after.peek? = some 0x2e then readFraction isNegative whole dropped after.advance
      else if isExponentMark after.peek? then
        readExponent isNegative whole dropped after.advance
      else if dropped = 0 then .ok (signed isNegative whole, after)
      else finish isNegative whole dropped after

/-- Passes over an exponent, from behind the letter. -/
def skipExponent (cursor : Cursor) : Except Fault Cursor :=
  let signed := match cursor.peek? with
    | some 0x2b => cursor.advance
    | some 0x2d => cursor.advance
    | _ => cursor
  match signed.peek? with
  | none => .error (signed.faultHere .invalidNumber)
  | some first =>
    if isDigit first then .ok (signed.takeWhile isDigit).2
    else .error (signed.advance.faultHere .invalidNumber)

/-- Passes over a number, from behind the sign. -/
def skip (cursor : Cursor) : Except Fault Cursor :=
  let (digits, after) := cursor.takeWhile isDigit
  match digits with
  | [] =>
    match cursor.peek? with
    | none => .error (cursor.faultHere .invalidNumber)
    | some _ => .error (cursor.advance.faultHere .invalidNumber)
  | first :: others =>
    if first = 0x30 && !others.isEmpty then .error (cursor.advance.faultNext .invalidNumber)
    else if after.peek? = some 0x2e then
      let (fraction, behind) := after.advance.takeWhile isDigit
      if fraction.isEmpty then .error (behind.faultNext .invalidNumber)
      else if isExponentMark behind.peek? then skipExponent behind.advance
      else .ok behind
    else if isExponentMark after.peek? then skipExponent after.advance
    else .ok after

end Numeral

end ResilientHttp.Json
