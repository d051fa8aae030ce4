import ResilientHttp.Json.Fault
import ResilientHttp.Text.Utf8

/-!
# Reading positions

A cursor stands between two bytes of a document: it knows what is still to be read and its own
place. A fault is noticed either at the cursor, or at the byte behind it, which is one column
further on unless that byte ends the line or the document has ended.
-/

set_option autoImplicit false

namespace ResilientHttp.Json

/-- A position in a document. -/
structure Cursor where
  rest : Bytes
  line : Nat := 1
  column : Nat := 0

namespace Cursor

/-- The byte behind the cursor. -/
def peek? (cursor : Cursor) : Option UInt8 := cursor.rest.head?

/-- The cursor one byte further on. -/
def advance (cursor : Cursor) : Cursor :=
  match cursor.rest with
  | [] => cursor
  | byte :: rest =>
    if byte = 0x0a then ⟨rest, cursor.line + 1, 0⟩ else ⟨rest, cursor.line, cursor.column + 1⟩

/-- The cursor several bytes further on. -/
def advanceBy (cursor : Cursor) : Nat → Cursor
  | 0 => cursor
  | count + 1 => cursor.advance.advanceBy count

/-- The place of the cursor. -/
def place (cursor : Cursor) : Place := ⟨cursor.line, cursor.column⟩

/-- A fault noticed at the cursor. -/
def faultHere (cursor : Cursor) (cause : Cause) : Fault := ⟨cause, cursor.place, []⟩

/-- A fault noticed at the byte behind the cursor. -/
def faultNext (cursor : Cursor) (cause : Cause) : Fault := ⟨cause, cursor.advance.place, []⟩

/-- Whether a byte is a blank between tokens. -/
def isBlank (byte : UInt8) : Bool :=
  byte = 0x20 || byte = 0x0a || byte = 0x09 || byte = 0x0d

/-- The cursor behind the blanks. -/
def skipBlanks (cursor : Cursor) : Cursor :=
  cursor.advanceBy (cursor.rest.takeWhile isBlank).length

/-- The bytes behind the cursor that satisfy a condition, and the cursor behind them. -/
def takeWhile (cursor : Cursor) (keep : UInt8 → Bool) : Bytes × Cursor :=
  let taken := cursor.rest.takeWhile keep
  (taken, cursor.advanceBy taken.length)

/-- Reads the given bytes. -/
def word (cursor : Cursor) : Bytes → Except Fault Cursor
  | [] => .ok cursor
  | byte :: others =>
    match cursor.peek? with
    | none => .error (cursor.faultHere .endInValue)
    | some found =>
      if found = byte then cursor.advance.word others
      else .error (cursor.advance.faultHere .noWord)

/-- Advancing never makes more to read. -/
theorem rest_advance (cursor : Cursor) : cursor.advance.rest = cursor.rest.tail := by
  unfold advance
  split <;> rename_i found
  · simp [found]
  · split <;> simp [found]

theorem rest_advanceBy (cursor : Cursor) (count : Nat) :
    (cursor.advanceBy count).rest = cursor.rest.drop count := by
  induction count generalizing cursor with
  | zero => rfl
  | succ count ih => rw [advanceBy, ih, rest_advance, List.drop_tail]

end Cursor

end ResilientHttp.Json
