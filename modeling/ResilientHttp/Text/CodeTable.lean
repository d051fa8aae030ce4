import ResilientHttp.Text.Split

/-!
# Tables of code points

What is known about the characters of the world's scripts is written down in tables. A table is a
text of rows in the order of the code points, with blanks between them. A row says which code points
it is about, of what kind they are, and which numbers belong to them; all numbers are hexadecimal,
with lower-case digits:

* `fb00>66.66` is about one code point, of kind `>`, with two numbers;
* `41-5a>61` is about the code points from `41` to `5a`;
* `100-12e/2>101` is about every second of the code points from `100` to `12e`;
* `378-379!` has no numbers.

No two rows of a table overlap, so that a code point is in at most one row (`find?`). The numbers of
a row that covers several code points belong to its first one (`CodeRow.shifted`).
-/

set_option autoImplicit false

namespace ResilientHttp.Text

/-- What a table says about some code points. -/
structure CodeRow where
  first : Nat
  last : Nat
  /-- The distance between two neighbouring code points of the row. -/
  step : Nat
  kind : Char
  values : List Nat
  deriving DecidableEq, Repr

namespace CodeRow

/-- Whether a row is about a code point. -/
def covers (row : CodeRow) (point : Nat) : Bool :=
  row.first ≤ point && point ≤ row.last && (point - row.first) % row.step = 0

/-- The number for a code point of a row that has a single number: it grows with the code point. -/
def shifted (row : CodeRow) (point value : Nat) : Nat := value + (point - row.first)

/-- Whether a character is a hexadecimal digit. -/
def isDigit (character : Char) : Bool :=
  ('0' ≤ character && character ≤ '9') || ('a' ≤ character && character ≤ 'f')

/-- The number that hexadecimal digits spell. -/
def number (digits : List Char) : Nat :=
  digits.foldl
    (fun value digit =>
      value * 16 + (if digit ≤ '9' then digit.toNat - 48 else digit.toNat - 87))
    0

/-- The number behind a mark, if the mark is there, and what follows. -/
def readMarked (mark : Char) (missing : Nat) (characters : List Char) : Nat × List Char :=
  match characters with
  | first :: rest =>
    if first = mark then
      let (digits, after) := breakAt (!isDigit ·) rest
      (number digits, after)
    else (missing, characters)
  | [] => (missing, [])

/-- Reads a row. -/
def read? (characters : List Char) : Option CodeRow :=
  let (digits, afterFirst) := breakAt (!isDigit ·) characters
  let first := number digits
  let (last, afterLast) := readMarked '-' first afterFirst
  let (step, afterStep) := readMarked '/' 1 afterLast
  match afterStep with
  | [] => none
  | kind :: rest =>
    some
      { first, last, step, kind
        values := if rest.isEmpty then [] else (split '.' rest).map number }

end CodeRow

/-- A table of code points. -/
structure CodeTable where
  rows : Array CodeRow

namespace CodeTable

/-- The words of a text. -/
def words (characters : List Char) : List (List Char) :=
  (characters.foldr
    (fun character words =>
      if character = ' ' || character = '\n' then [] :: words
      else
        match words with
        | word :: rest => (character :: word) :: rest
        | [] => [[character]])
    [[]]).filter (!·.isEmpty)

/-- The table that a text spells. -/
def ofText (text : String) : CodeTable :=
  ⟨((words text.toList).filterMap CodeRow.read?).toArray⟩

/-- The number of rows that begin at a code point or before it, if it is known to be at least `low`
and at most `high`. -/
def countUpTo (table : CodeTable) (point low high : Nat) : Nat :=
  if low < high then
    let middle := (low + high) / 2
    if ((table.rows[middle]?).map (·.first)).getD 0 ≤ point then
      countUpTo table point (middle + 1) high
    else countUpTo table point low middle
  else low
termination_by high - low
decreasing_by all_goals omega

/-- The row about a code point. -/
def find? (table : CodeTable) (point : Nat) : Option CodeRow :=
  match table.countUpTo point 0 table.rows.size with
  | 0 => none
  | before + 1 => (table.rows[before]?).filter (·.covers point)

/-- What kind of character a table says a character is. -/
def kind? (table : CodeTable) (character : Char) : Option Char :=
  (table.find? character.toNat).map (·.kind)

end CodeTable

end ResilientHttp.Text
