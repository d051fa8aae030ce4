/-!
# UTF-8

A body is text exactly when its bytes are a UTF-8 sequence. Reading stops at the first byte that
rules this out, and the fault says where: after how many good bytes, and how many bytes the broken
character has. A sequence that ends inside a character is incomplete, and then no number of bytes
is given.

The second byte of a character is restricted by the first, which is what excludes overlong forms,
the surrogates and everything beyond the last code point (`secondRange`).
-/

set_option autoImplicit false

namespace ResilientHttp

/-- A string of bytes. -/
abbrev Bytes := List UInt8

namespace Utf8

/-- Where a byte string stops being UTF-8. -/
structure Fault where
  /-- The number of bytes before the broken character. -/
  validUpTo : Nat
  /-- The number of bytes of the broken character, or nothing if the text ends inside it. -/
  width : Option Nat
  deriving DecidableEq, Repr

/-- The wording of a fault. -/
def Fault.message (fault : Fault) : String :=
  match fault.width with
  | some width =>
    "invalid utf-8 sequence of " ++ toString width ++ " bytes from index " ++
      toString fault.validUpTo
  | none => "incomplete utf-8 byte sequence from index " ++ toString fault.validUpTo

/-- Whether a byte continues a character. -/
def isContinuation (byte : UInt8) : Bool :=
  0x80 ≤ byte && byte ≤ 0xbf

/-- The range of the second byte of a character of three or four bytes. -/
def secondRange (first : UInt8) : UInt8 × UInt8 :=
  if first = 0xe0 then (0xa0, 0xbf)
  else if first = 0xed then (0x80, 0x9f)
  else if first = 0xf0 then (0x90, 0xbf)
  else if first = 0xf4 then (0x80, 0x8f)
  else (0x80, 0xbf)

/-- Whether the second byte of a character fits its first byte. -/
def secondFits (first second : UInt8) : Bool :=
  (secondRange first).1 ≤ second && second ≤ (secondRange first).2

/-- The code point of a character of two bytes. -/
def codePoint2 (first second : UInt8) : Nat :=
  (first.toNat - 0xc0) * 64 + (second.toNat - 0x80)

/-- The code point of a character of three bytes. -/
def codePoint3 (first second third : UInt8) : Nat :=
  ((first.toNat - 0xe0) * 64 + (second.toNat - 0x80)) * 64 + (third.toNat - 0x80)

/-- The code point of a character of four bytes. -/
def codePoint4 (first second third fourth : UInt8) : Nat :=
  (((first.toNat - 0xf0) * 64 + (second.toNat - 0x80)) * 64 + (third.toNat - 0x80)) * 64 +
    (fourth.toNat - 0x80)

/-- Reads characters from `position` on; `read` holds those before it, the last one first. -/
def decodeFrom (position : Nat) (read : List Char) : Bytes → Except Fault (List Char)
  | [] => .ok read.reverse
  | first :: rest =>
    if first < 0x80 then
      decodeFrom (position + 1) (Char.ofNat first.toNat :: read) rest
    else if 0xc2 ≤ first && first ≤ 0xdf then
      match rest with
      | [] => .error ⟨position, none⟩
      | second :: rest =>
        if isContinuation second then
          decodeFrom (position + 2) (Char.ofNat (codePoint2 first second) :: read) rest
        else .error ⟨position, some 1⟩
    else if 0xe0 ≤ first && first ≤ 0xef then
      match rest with
      | [] => .error ⟨position, none⟩
      | second :: rest =>
        if secondFits first second then
          match rest with
          | [] => .error ⟨position, none⟩
          | third :: rest =>
            if isContinuation third then
              decodeFrom (position + 3) (Char.ofNat (codePoint3 first second third) :: read) rest
            else .error ⟨position, some 2⟩
        else .error ⟨position, some 1⟩
    else if 0xf0 ≤ first && first ≤ 0xf4 then
      match rest with
      | [] => .error ⟨position, none⟩
      | second :: rest =>
        if secondFits first second then
          match rest with
          | [] => .error ⟨position, none⟩
          | third :: rest =>
            if isContinuation third then
              match rest with
              | [] => .error ⟨position, none⟩
              | fourth :: rest =>
                if isContinuation fourth then
                  decodeFrom (position + 4)
                    (Char.ofNat (codePoint4 first second third fourth) :: read) rest
                else .error ⟨position, some 3⟩
            else .error ⟨position, some 2⟩
        else .error ⟨position, some 1⟩
    else .error ⟨position, some 1⟩

/-- The characters of a UTF-8 byte string. -/
def decode (bytes : Bytes) : Except Fault (List Char) :=
  decodeFrom 0 [] bytes

/-- The UTF-8 bytes of a list of characters. -/
def encode (characters : List Char) : Bytes :=
  characters.flatMap String.utf8EncodeChar

/-- The UTF-8 bytes of a text. -/
def ofString (text : String) : Bytes :=
  encode text.toList

/-- The text that a byte string spells, if it is UTF-8. -/
def toString? (bytes : Bytes) : Option String :=
  match decode bytes with
  | .ok characters => some (String.ofList characters)
  | .error _ => none

end Utf8

end ResilientHttp
