import ResilientHttp.Json.Cursor

/-!
# Reading texts

A text stands between quotes. Between its escapes it is UTF-8; a character that is not is noticed at
its first byte. An escape with four hexadecimal digits names a UTF-16 unit; a unit of the first half
of the surrogates must be followed by one of the second half, and the two together name a character.
-/

set_option autoImplicit false

namespace ResilientHttp.Json

namespace Literal

/-- Whether a byte stands for itself in a text. -/
def isPlain (byte : UInt8) : Bool := 0x20 ≤ byte && byte ≠ 0x22 && byte ≠ 0x5c

/-- The value of a hexadecimal digit. -/
def hexValue? (byte : UInt8) : Option Nat :=
  if 0x30 ≤ byte && byte ≤ 0x39 then some (byte.toNat - 0x30)
  else if 0x41 ≤ byte && byte ≤ 0x46 then some (byte.toNat - 0x41 + 10)
  else if 0x61 ≤ byte && byte ≤ 0x66 then some (byte.toNat - 0x61 + 10)
  else none

/-- Reads four hexadecimal digits. -/
def readUnit (cursor : Cursor) : Except Fault (Nat × Cursor) :=
  match cursor.rest with
  | first :: second :: third :: fourth :: _ =>
    let after := cursor.advanceBy 4
    match hexValue? first, hexValue? second, hexValue? third, hexValue? fourth with
    | some a, some b, some c, some d => .ok (((a * 16 + b) * 16 + c) * 16 + d, after)
    | _, _, _, _ => .error (after.faultHere .invalidEscape)
  | rest => .error ((cursor.advanceBy rest.length).faultHere .endInText)

/-- Reads a byte that has to follow the first unit of a pair. -/
def readInPair (byte : UInt8) (cursor : Cursor) : Except Fault Cursor :=
  match cursor.peek? with
  | none => .error (cursor.faultHere .endInText)
  | some found =>
    if found = byte then .ok cursor.advance
    else .error (cursor.advance.faultHere .endOfSurrogates)

/-- Reads the character that an escape with hexadecimal digits names. -/
def readUnicode (cursor : Cursor) : Except Fault (Char × Cursor) := do
  let (unit, after) ← readUnit cursor
  if 0xdc00 ≤ unit && unit ≤ 0xdfff then .error (after.faultHere .loneSurrogate)
  else if unit < 0xd800 || 0xdbff < unit then .ok (Char.ofNat unit, after)
  else
    let escaped ← readInPair 0x5c after
    let marked ← readInPair 0x75 escaped
    let (second, behind) ← readUnit marked
    if second < 0xdc00 || 0xdfff < second then .error (behind.faultHere .loneSurrogate)
    else .ok (Char.ofNat ((unit - 0xd800) * 1024 + (second - 0xdc00) + 0x10000), behind)

/-- The character of a short escape. -/
def shortEscape? (byte : UInt8) : Option Char :=
  match byte with
  | 0x22 => some '"'
  | 0x5c => some '\\'
  | 0x2f => some '/'
  | 0x62 => some '\x08'
  | 0x66 => some '\x0c'
  | 0x6e => some '\n'
  | 0x72 => some '\r'
  | 0x74 => some '\t'
  | _ => none

/-- Reads an escape, from behind the backslash. -/
def readEscape (cursor : Cursor) : Except Fault (Char × Cursor) :=
  match cursor.peek? with
  | none => .error (cursor.faultHere .endInText)
  | some byte =>
    if byte = 0x75 then readUnicode cursor.advance
    else
      match shortEscape? byte with
      | some character => .ok (character, cursor.advance)
      | none => .error (cursor.advance.faultHere .invalidEscape)

/-- The characters of plain bytes. -/
def plainCharacters (cursor : Cursor) (bytes : Bytes) : Except Fault (List Char) :=
  match Utf8.decode bytes with
  | .ok characters => .ok characters
  | .error fault =>
    .error ((cursor.advanceBy (fault.validUpTo + 1)).faultHere .invalidCharacter)

/-- Reads a text, from behind its opening quote, given the characters before, the last one first. -/
def readFrom : Nat → List Char → Cursor → Except Fault (String × Cursor)
  | 0, _, cursor => .error (cursor.faultHere .endInText)
  | fuel + 1, before, cursor =>
    let (plain, after) := cursor.takeWhile isPlain
    match after.peek? with
    | none => .error (after.faultHere .endInText)
    | some 0x22 => do
      let characters ← plainCharacters cursor plain
      .ok (String.ofList (before.reverse ++ characters), after.advance)
    | some 0x5c => do
      let characters ← plainCharacters cursor plain
      let (escaped, behind) ← readEscape after.advance
      readFrom fuel (escaped :: (characters.reverse ++ before)) behind
    | some _ => .error (after.advance.faultHere .controlCharacter)

/-- Reads a text, from behind its opening quote. -/
def read (cursor : Cursor) : Except Fault (String × Cursor) :=
  readFrom (cursor.rest.length + 1) [] cursor

/-- Passes over an escape, from behind the backslash. -/
def skipEscape (cursor : Cursor) : Except Fault Cursor :=
  match cursor.peek? with
  | none => .error (cursor.faultHere .endInText)
  | some byte =>
    if byte = 0x75 then (readUnit cursor.advance).map (·.2)
    else if (shortEscape? byte).isSome then .ok cursor.advance
    else .error (cursor.advance.faultHere .invalidEscape)

/-- Passes over a text. -/
def skipFrom : Nat → Cursor → Except Fault Cursor
  | 0, cursor => .error (cursor.faultHere .endInText)
  | fuel + 1, cursor =>
    let after := (cursor.takeWhile isPlain).2
    match after.peek? with
    | none => .error (after.faultHere .endInText)
    | some 0x22 => .ok after.advance
    | some 0x5c => do skipFrom fuel (← skipEscape after.advance)
    | some _ => .error (after.faultHere .controlCharacter)

/-- Passes over a text, from behind its opening quote. -/
def skip (cursor : Cursor) : Except Fault Cursor :=
  skipFrom (cursor.rest.length + 1) cursor

end Literal

end ResilientHttp.Json
