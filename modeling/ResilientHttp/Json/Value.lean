import ResilientHttp.Decimal.Shortest

/-!
# JSON values

A value is null, a truth value, a number, a text, an array or an object. Whole numbers of 64 bits
are kept exactly, all others as binary fractions; zero with a minus sign is such a fraction.

The entries of an object are kept in the order in which they are to be written. An object of which
nothing more is known has its entries sorted by name, each name once (`Entries.insert`).

A value is written without blanks. In a text only quotes, backslashes and the control characters
below the space are escaped.
-/

set_option autoImplicit false

namespace ResilientHttp.Json

open Decimal (Binary Shortest.text)

/-- A number. -/
inductive Number where
  /-- A whole number that is not negative. -/
  | natural (value : Nat)
  /-- A whole number below zero, given by its distance from zero. -/
  | negative (distance : Nat)
  /-- A binary fraction with its sign. -/
  | real (isNegative : Bool) (magnitude : Binary)
  deriving DecidableEq, Repr

/-- A value. -/
inductive Value where
  | null
  | bool (value : Bool)
  | number (value : Number)
  | text (value : String)
  | array (items : List Value)
  | object (entries : List (String × Value))
  deriving Repr

namespace Number

/-- A number as it is written. -/
def characters : Number → List Char
  | natural value => Nat.toDigits 10 value
  | negative distance => '-' :: Nat.toDigits 10 distance
  | real isNegative magnitude =>
    if isNegative then '-' :: Shortest.text magnitude else Shortest.text magnitude

end Number

/-- The entries of an object with one more. An entry of the same name is replaced. -/
def Entries.insert (name : String) (value : Value) :
    List (String × Value) → List (String × Value)
  | [] => [(name, value)]
  | (other, kept) :: rest =>
    if name < other then (name, value) :: (other, kept) :: rest
    else if name = other then (name, value) :: rest
    else (other, kept) :: insert name value rest

namespace Value

/-- One hexadecimal digit. -/
def hexDigit (value : Nat) : Char := Nat.digitChar value

/-- A character as it stands in a written text. -/
def escape (character : Char) : List Char :=
  if character = '"' then ['\\', '"']
  else if character = '\\' then ['\\', '\\']
  else if character = '\n' then ['\\', 'n']
  else if character = '\r' then ['\\', 'r']
  else if character = '\t' then ['\\', 't']
  else if character.toNat = 8 then ['\\', 'b']
  else if character.toNat = 12 then ['\\', 'f']
  else if character.toNat < 32 then
    ['\\', 'u', '0', '0', hexDigit (character.toNat / 16), hexDigit (character.toNat % 16)]
  else [character]

/-- A written text. -/
def quoted (text : String) : List Char :=
  '"' :: (text.toList.flatMap escape ++ ['"'])

mutual

/-- A value as it is written. -/
def characters : Value → List Char
  | null => "null".toList
  | bool true => "true".toList
  | bool false => "false".toList
  | number value => value.characters
  | text value => quoted value
  | array items => '[' :: (itemCharacters true items ++ [']'])
  | object entries => '\x7b' :: (entryCharacters true entries ++ ['\x7d'])

/-- The items of an array, with commas between them. -/
def itemCharacters (isFirst : Bool) : List Value → List Char
  | [] => []
  | item :: rest =>
    (if isFirst then [] else [',']) ++ characters item ++ itemCharacters false rest

/-- The entries of an object, with commas between them. -/
def entryCharacters (isFirst : Bool) : List (String × Value) → List Char
  | [] => []
  | (name, value) :: rest =>
    (if isFirst then [] else [',']) ++ quoted name ++ ':' :: characters value ++
      entryCharacters false rest

end

/-- The text of a value. -/
def written (value : Value) : String := String.ofList value.characters

end Value

end ResilientHttp.Json
