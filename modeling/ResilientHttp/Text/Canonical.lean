import ResilientHttp.Text.CanonicalTable

/-!
# Canonical composition

The same text can be spelled in several ways: a letter with an accent is one character or two, and
several accents on a letter can stand in different orders. The canonical form is found in three
steps. Every character is taken apart as far as possible (`decompose`); marks that stand behind one
another are put in the order of their combining classes, where marks of one class keep their order
(`order`); and characters are put together again from left to right (`compose`).

The syllables of Hangul are taken apart and put together by computation: a syllable is a leading
consonant, a vowel and perhaps a trailing consonant, and the syllables are numbered in the order of
these three.
-/

set_option autoImplicit false

namespace ResilientHttp.Text.Canonical

/-! ## Hangul -/

/-- The first syllable. -/
def firstSyllable : Nat := 0xac00

/-- The first leading consonant. -/
def firstLeading : Nat := 0x1100

/-- The first vowel. -/
def firstVowel : Nat := 0x1161

/-- The code point before the first trailing consonant; it stands for there being none. -/
def noTrailing : Nat := 0x11a7

/-- The number of leading consonants. -/
def leadingCount : Nat := 19

/-- The number of vowels. -/
def vowelCount : Nat := 21

/-- The number of trailing consonants, where none counts as one. -/
def trailingCount : Nat := 28

/-- The number of syllables. -/
def syllableCount : Nat := leadingCount * vowelCount * trailingCount

/-- The parts of a syllable. -/
def decomposeSyllable? (point : Nat) : Option (List Nat) :=
  if firstSyllable ≤ point && point < firstSyllable + syllableCount then
    let place := point - firstSyllable
    let leading := firstLeading + place / (vowelCount * trailingCount)
    let vowel := firstVowel + place % (vowelCount * trailingCount) / trailingCount
    let trailing := place % trailingCount
    some (if trailing = 0 then [leading, vowel] else [leading, vowel, noTrailing + trailing])
  else none

/-- The syllable that begins with two parts, or with a syllable and a part. -/
def composeSyllable? (first second : Nat) : Option Nat :=
  if firstLeading ≤ first && first < firstLeading + leadingCount && firstVowel ≤ second &&
      second < firstVowel + vowelCount then
    some (firstSyllable +
      ((first - firstLeading) * vowelCount + (second - firstVowel)) * trailingCount)
  else if firstSyllable ≤ first && first < firstSyllable + syllableCount &&
      (first - firstSyllable) % trailingCount = 0 && noTrailing < second &&
      second < noTrailing + trailingCount then
    some (first + (second - noTrailing))
  else none

/-! ## Taking apart -/

/-- How many steps it takes at most to take a character apart. -/
def maxDepth : Nat := 4

/-- The parts of a character after a number of steps. -/
def decomposeUpTo : Nat → Nat → List Nat
  | 0, point => [point]
  | depth + 1, point =>
    match decomposeSyllable? point with
    | some parts => parts
    | none =>
      match decompositions.find? point with
      | none => [point]
      | some row =>
        match row.values with
        | [value] => decomposeUpTo depth (row.shifted point value)
        | values => values.flatMap (decomposeUpTo depth)

/-- The parts of a character. -/
def decompose (character : Char) : List Char :=
  (decomposeUpTo maxDepth character.toNat).map Char.ofNat

/-! ## Order -/

/-- The combining class of a character. It is zero for what is no mark, and marks of different
classes do not touch each other. -/
def combiningClass (character : Char) : Nat :=
  ((combiningClasses.find? character.toNat).bind (·.values.head?)).getD 0

/-- Puts a character in front of a text, but behind the marks of lower classes if it is a mark. -/
def place (character : Char) : List Char → List Char
  | [] => [character]
  | next :: rest =>
    if combiningClass next ≠ 0 && combiningClass next < combiningClass character then
      next :: place character rest
    else character :: next :: rest

/-- A text with its marks in the order of their classes. -/
def order (characters : List Char) : List Char := characters.foldr place []

/-! ## Putting together -/

/-- The character that is made of two others. -/
def compose? (first second : Char) : Option Char :=
  match composeSyllable? first.toNat second.toNat with
  | some point => some (Char.ofNat point)
  | none =>
    (decompositions.rows.find? fun row =>
      row.kind = '=' && row.values = [first.toNat, second.toNat]).map fun row =>
        Char.ofNat row.first

/-- A text while it is put together. -/
structure Composition where
  /-- What is finished, the latest first. -/
  done : List Char := []
  /-- The character that others may join. -/
  base : Option Char := none
  /-- The marks behind the base that did not join it, the latest first. -/
  marks : List Char := []

namespace Composition

/-- Everything in its place, the latest first. -/
def flush (composition : Composition) : List Char :=
  composition.marks ++ composition.base.toList ++ composition.done

/-- Whether a character of a class is kept from the base by the marks between them. -/
def isBlocked (composition : Composition) (combining : Nat) : Bool :=
  match composition.marks with
  | [] => false
  | latest :: _ => combining = 0 || combining ≤ combiningClass latest

/-- Puts a character behind what is there without joining it to the base. -/
def append (composition : Composition) (character : Char) : Composition :=
  if combiningClass character = 0 then { done := composition.flush, base := some character }
  else { composition with marks := character :: composition.marks }

/-- Takes one more character. -/
def push (composition : Composition) (character : Char) : Composition :=
  match composition.base with
  | none => composition.append character
  | some base =>
    if composition.isBlocked (combiningClass character) then composition.append character
    else
      match compose? base character with
      | some joined => { composition with base := some joined }
      | none => composition.append character

end Composition

/-- A text with its characters put together. -/
def compose (characters : List Char) : List Char :=
  (characters.foldl Composition.push {}).flush.reverse

/-- The canonical form of a text. -/
def normalize (characters : List Char) : List Char :=
  compose (order (characters.flatMap decompose))

end ResilientHttp.Text.Canonical
