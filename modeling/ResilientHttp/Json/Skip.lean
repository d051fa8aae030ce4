import ResilientHttp.Json.Literal
import ResilientHttp.Json.Numeral

/-!
# Passing over values

A value that nobody asked for is passed over: its form is checked, its content is not. The arrays
and objects that are open are kept on a stack, so values may be nested to any depth.
-/

set_option autoImplicit false

namespace ResilientHttp.Json

/-- An open array or object. -/
inductive Frame where
  | list
  | object
  deriving DecidableEq, Repr

namespace Frame

/-- The byte that ends it. -/
def closer : Frame → UInt8
  | list => 0x5d
  | object => 0x7d

/-- The fault of a document that ends inside it. -/
def atEnd : Frame → Cause
  | list => .endInList
  | object => .endInObject

/-- The fault of a value that is followed by neither a comma nor the end. -/
def noComma : Frame → Cause
  | list => .noListComma
  | object => .noObjectComma

end Frame

namespace Skip

/-- What is expected next. -/
inductive Mode where
  /-- A value. -/
  | value
  /-- What follows a value, or an opening bracket. -/
  | next (afterValue : Bool)

/-- Passes over a value that is not an array or object; nothing if it is one. -/
def scalar (byte : UInt8) (cursor : Cursor) : Option (Except Fault Cursor) :=
  if byte = 0x6e then some (cursor.advance.word [0x75, 0x6c, 0x6c])
  else if byte = 0x74 then some (cursor.advance.word [0x72, 0x75, 0x65])
  else if byte = 0x66 then some (cursor.advance.word [0x61, 0x6c, 0x73, 0x65])
  else if byte = 0x2d then some (Numeral.skip cursor.advance)
  else if Numeral.isDigit byte then some (Numeral.skip cursor)
  else if byte = 0x22 then some (Literal.skip cursor.advance)
  else if byte = 0x5b || byte = 0x7b then none
  else some (.error (cursor.faultNext .noValue))

/-- Passes over the name of an entry and the colon behind it; in an array there is none. -/
def entryName (frame : Frame) (cursor : Cursor) : Except Fault Cursor :=
  match frame with
  | .list => .ok cursor
  | .object => do
    let blank := cursor.skipBlanks
    match blank.peek? with
    | none => .error (blank.faultNext .endInObject)
    | some byte =>
      if byte = 0x22 then
        let behind := (← Literal.skip blank.advance).skipBlanks
        match behind.peek? with
        | none => .error (behind.faultNext .endInObject)
        | some 0x3a => .ok behind.advance
        | some _ => .error (behind.faultNext .noColon)
      else .error (blank.faultNext .nameNotText)

/-- Passes on through the open arrays and objects, the innermost first. -/
def through : Nat → Mode → List Frame → Cursor → Except Fault Cursor
  | 0, _, _, cursor => .error (cursor.faultNext .endInValue)
  | fuel + 1, .value, stack, cursor => do
    let blank := cursor.skipBlanks
    match blank.peek? with
    | none => .error (blank.faultNext .endInValue)
    | some byte =>
      match scalar byte blank with
      | some result => through fuel (.next true) stack (← result)
      | none =>
        let frame := if byte = 0x5b then Frame.list else .object
        through fuel (.next false) (frame :: stack) blank.advance
  | _ + 1, .next _, [], cursor => .ok cursor
  | fuel + 1, .next afterValue, frame :: stack, cursor => do
    let blank := cursor.skipBlanks
    match blank.peek? with
    | none => .error (blank.faultNext frame.atEnd)
    | some byte =>
      if byte = 0x2c && afterValue then
        through fuel .value (frame :: stack) (← entryName frame blank.advance)
      else if byte = frame.closer then through fuel (.next true) stack blank.advance
      else if afterValue then .error (blank.faultNext frame.noComma)
      else through fuel .value (frame :: stack) (← entryName frame blank)

/-- Passes over a value. -/
def value (cursor : Cursor) : Except Fault Cursor :=
  through (2 * cursor.rest.length + 4) .value [] cursor

end Skip

end ResilientHttp.Json
