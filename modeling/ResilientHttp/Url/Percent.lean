import ResilientHttp.Text.Utf8

/-!
# Percent encoding

The parts of a URL are written in ASCII. A character that a part may not contain is written as the
UTF-8 bytes of the character, each as a percent sign and two upper-case hexadecimal digits. Which
ASCII characters are written this way depends on the part; every control character and every
character outside ASCII always is.
-/

set_option autoImplicit false

namespace ResilientHttp.Url.Percent

/-- A set of ASCII characters, beyond the controls, that a part of a URL does not contain. -/
abbrev EncodeSet := List Char

/-- Whether a character has to be written with percent signs. -/
def needsEncoding (extra : EncodeSet) (character : Char) : Bool :=
  character.toNat < 0x20 || 0x7f ≤ character.toNat || extra.contains character

/-- The set of opaque hosts and opaque paths: the controls alone. -/
def controls : EncodeSet := []

/-- The set of fragments. -/
def fragment : EncodeSet := [' ', '"', '<', '>', '`']

/-- The set of paths. -/
def path : EncodeSet := fragment ++ ['#', '?', '\x7b', '\x7d']

/-- The set of user names and passwords. -/
def userInfo : EncodeSet := path ++ ['/', ':', ';', '=', '@', '[', '\\', ']', '^', '|']

/-- The set of queries. -/
def query : EncodeSet := [' ', '"', '#', '<', '>']

/-- The set of queries of the special schemes. -/
def specialQuery : EncodeSet := query ++ ['\'']

/-- One upper-case hexadecimal digit. -/
def hexDigit (value : Nat) : Char :=
  if value < 10 then Char.ofNat (0x30 + value) else Char.ofNat (0x41 + (value - 10))

/-- A byte as a percent sign and two digits. -/
def encodeByte (byte : UInt8) : List Char :=
  ['%', hexDigit (byte.toNat / 16), hexDigit (byte.toNat % 16)]

/-- A character as it stands in a part. -/
def encodeChar (extra : EncodeSet) (character : Char) : List Char :=
  if needsEncoding extra character then
    (String.utf8EncodeChar character).flatMap encodeByte
  else [character]

/-- The text of a part. -/
def encode (extra : EncodeSet) (characters : List Char) : List Char :=
  characters.flatMap (encodeChar extra)

/-- The value of a hexadecimal digit given as a byte. -/
def hexValue? (byte : UInt8) : Option Nat :=
  if 0x30 ≤ byte && byte ≤ 0x39 then some (byte.toNat - 0x30)
  else if 0x41 ≤ byte && byte ≤ 0x46 then some (byte.toNat - 0x41 + 10)
  else if 0x61 ≤ byte && byte ≤ 0x66 then some (byte.toNat - 0x61 + 10)
  else none

/-- Replaces each percent sign that is followed by two hexadecimal digits by the byte they name. -/
def decode : Bytes → Bytes
  | [] => []
  | 0x25 :: high :: low :: rest =>
    match hexValue? high, hexValue? low with
    | some upper, some lower => UInt8.ofNat (upper * 16 + lower) :: decode rest
    | _, _ => 0x25 :: decode (high :: low :: rest)
  | byte :: rest => byte :: decode rest

end ResilientHttp.Url.Percent
