import ResilientHttp.Text.Split

/-!
# Punycode

A label with characters beyond ASCII is written with letters, digits and hyphens. First come its
ASCII characters, then a hyphen if there are any, and then numbers that say how the other characters
are inserted among them.

The insertions happen in the order of the code points, and from left to right for equal ones. Before
an insertion there are as many places for the next character as the label has gaps, so a code point
and a gap make up one number, which grows from each insertion to the next. What is written is the
growth (`growths`).

A number is written with digits of base 36, the lowest first, in such a way that its last digit can
be told from the others: it is below a threshold (`threshold`). The thresholds are adapted to the
size of the numbers so far (`adapt`).
-/

set_option autoImplicit false

namespace ResilientHttp.Text.Punycode

/-! ## Digits -/

/-- The number of digits. -/
def base : Nat := 36

/-- The largest number that is understood. -/
def maxNumber : Nat := 4294967295

/-- The digit for a value below `base`: the letters, then the ten digits. -/
def digit (value : Nat) : Char :=
  if value < 26 then Char.ofNat (97 + value) else Char.ofNat (22 + value)

/-- The value of a digit. -/
def digitValue? (character : Char) : Option Nat :=
  if 'a' ≤ character && character ≤ 'z' then some (character.toNat - 97)
  else if 'A' ≤ character && character ≤ 'Z' then some (character.toNat - 65)
  else if '0' ≤ character && character ≤ '9' then some (character.toNat - 22)
  else none

/-- The threshold for a digit, by its place and the bias. It lies between 1 and 26. -/
def threshold (place bias : Nat) : Nat := min 26 (max 1 (base * (place + 1) - bias))

/-- The bias before the first number. -/
def firstBias : Nat := 72

/-- The bias that fits numbers of about a given size. -/
def biasFor (size : Nat) : Nat :=
  if 455 < size then base + biasFor (size / 35) else base * size / (size + 38)
termination_by size
decreasing_by exact Nat.div_lt_self (by omega) (by omega)

/-- The bias after a number, where `length` characters are there now. -/
def adapt (growth length : Nat) (isFirst : Bool) : Nat :=
  let damped := if isFirst then growth / 700 else growth / 2
  biasFor (damped + damped / length)

theorem threshold_pos (place bias : Nat) : 0 < threshold place bias := by
  unfold threshold
  omega

/-- The digits of a number from a place on. -/
def digits (bias place number : Nat) : List Char :=
  if number < threshold place bias then [digit number]
  else
    let room := base - threshold place bias
    let above := number - threshold place bias
    digit (threshold place bias + above % room) :: digits bias (place + 1) (above / room)
termination_by number
decreasing_by
  have positive := threshold_pos place bias
  exact Nat.lt_of_le_of_lt (Nat.div_le_self _ _) (by omega)

/-- Reads a number from a place on, whose digits have a weight there, and adds it to what there is.
The answer is followed by the rest of the digits. -/
def readNumber? (bias : Nat) : Nat → Nat → Nat → List Char → Option (Nat × List Char)
  | _, _, _, [] => none
  | place, weight, total, character :: rest =>
    match digitValue? character with
    | none => none
    | some value =>
      let grown := total + value * weight
      if maxNumber < grown then none
      else if value < threshold place bias then some (grown, rest)
      else
        let heavier := weight * (base - threshold place bias)
        if maxNumber < heavier then none
        else readNumber? bias (place + 1) heavier grown rest

theorem length_of_readNumber? {bias place weight total : Nat} {characters rest : List Char}
    {number : Nat} (found : readNumber? bias place weight total characters = some (number, rest)) :
    rest.length < characters.length := by
  induction characters generalizing place weight total with
  | nil => simp [readNumber?] at found
  | cons character others ih =>
    unfold readNumber? at found
    split at found
    · simp at found
    · rename_i value _
      simp only at found
      split at found
      · simp at found
      · split at found
        · simp only [Option.some.injEq, Prod.mk.injEq] at found
          simp [found.2]
        · split at found
          · simp at found
          · have shorter := ih found
            simp only [List.length_cons]
            omega

/-! ## Insertions -/

/-- The first code point that is inserted. -/
def firstInserted : Nat := 128

/-- Whether a character is written as it is. -/
def isBasic (character : Char) : Bool := character.toNat < firstInserted

/-- A character that is inserted, and the gap where it is. -/
structure Insertion where
  point : Nat
  gap : Nat
  deriving DecidableEq, Repr

/-- What is inserted to make a label, in the order in which it happens. The gap of a character is the
number of characters before it that are there already: those with a smaller code point, and those
with the same one. -/
def insertions (label : List Char) : List Insertion :=
  let placed := label.zipIdx
  let inserted := (placed.filter (!isBasic ·.1)).mergeSort fun left right =>
    left.1.toNat ≤ right.1.toNat
  inserted.map fun (character, index) =>
    ⟨character.toNat, (label.take index).countP (·.toNat ≤ character.toNat)⟩

/-- The numbers that are written for insertions, from a state on: the code point and gap that come
next, and the number of characters that are there. -/
def growths (point gap length : Nat) : List Insertion → List Nat
  | [] => []
  | insertion :: rest =>
    ((insertion.point - point) * (length + 1) + insertion.gap - gap) ::
      growths insertion.point (insertion.gap + 1) (length + 1) rest

/-- The digits of several numbers, with a bias and the number of characters that are there. -/
def writeGrowths (bias length : Nat) (isFirst : Bool) : List Nat → List Char
  | [] => []
  | growth :: rest =>
    digits bias 0 growth ++
      writeGrowths (adapt growth (length + 1) isFirst) (length + 1) false rest

/-- A label in Punycode. -/
def encode (label : List Char) : List Char :=
  let basic := label.filter isBasic
  let hyphen := if basic.isEmpty then [] else ['-']
  basic ++ hyphen ++
    writeGrowths firstBias basic.length true
      (growths firstInserted 0 basic.length (insertions label))

/-- Reads insertions into a label, from a state on: the code point and gap that come next. -/
def readInsertions? (bias point gap : Nat) (isFirst : Bool) (label characters : List Char) :
    Option (List Char) :=
  if characters.isEmpty then some label
  else
    match found : readNumber? bias 0 1 gap characters with
    | none => none
    | some (number, rest) =>
      let places := label.length + 1
      let inserted := point + number / places
      let place := number % places
      if inserted.isValidChar then
        readInsertions? (adapt (number - gap) places isFirst) inserted (place + 1) false
          (label.insertIdx place (Char.ofNat inserted)) rest
      else none
termination_by characters.length
decreasing_by exact length_of_readNumber? found

/-- The label that a text in Punycode spells. What stands before the last hyphen are its ASCII
characters. -/
def decode? (characters : List Char) : Option (List Char) :=
  let (last, front) := breakAt (· = '-') characters.reverse
  let basic := (front.drop 1).reverse
  let rest := if basic.isEmpty then characters else last.reverse
  if basic.all isBasic then readInsertions? firstBias firstInserted 0 true basic rest else none

end ResilientHttp.Text.Punycode
