import ResilientHttp.Text.Split
import ResilientHttp.Url.Fault

/-!
# IPv4 addresses as hosts

A host is an IPv4 address exactly when its last label is a number (`endsInNumber`); then it has to
be one, and otherwise it is not a host at all. An address has up to four numbers between dots. Each
is decimal, octal after a leading `0`, or hexadecimal after `0x`; every number but the last is one
byte, and the last one fills the bytes that remain, so `127.1` is `127.0.0.1`.
-/

set_option autoImplicit false

namespace ResilientHttp.Url.Ipv4

/-- The value of a hexadecimal digit. -/
def digitValue? (character : Char) : Option Nat :=
  if '0' ≤ character ∧ character ≤ '9' then some (character.toNat - '0'.toNat)
  else if 'a' ≤ character ∧ character ≤ 'f' then some (character.toNat - 'a'.toNat + 10)
  else if 'A' ≤ character ∧ character ≤ 'F' then some (character.toNat - 'A'.toNat + 10)
  else none

/-- The number that digits of a base spell, most significant first. -/
def number? (base : Nat) (digits : List Char) : Option Nat :=
  digits.foldl
    (fun read digit =>
      match read, digitValue? digit with
      | some value, some next => if next < base then some (value * base + next) else none
      | _, _ => none)
    (some 0)

/-- The number of one label of an address: decimal, octal or hexadecimal by its beginning. -/
def label? : List Char → Option Nat
  | [] => none
  | '0' :: 'x' :: digits => number? 16 digits
  | '0' :: 'X' :: digits => number? 16 digits
  | '0' :: digit :: digits => number? 8 (digit :: digits)
  | digits => number? 10 digits

/-- The labels of a host, without the empty label that a final dot leaves. -/
def labels (host : List Char) : List (List Char) :=
  let pieces := Text.split '.' host
  if pieces.getLast? = some [] ∧ 1 < pieces.length then pieces.dropLast else pieces

/-- Whether the last label of a host is a number. -/
def endsInNumber (host : List Char) : Bool :=
  match (labels host).getLast? with
  | none => false
  | some last =>
    (!last.isEmpty && last.all fun character => '0' ≤ character && character ≤ '9') ||
      (label? last).isSome

/-- The address whose leading numbers are bytes and whose last number fills the rest. -/
def assemble (leading : List Nat) (last : Nat) : Option Nat :=
  if leading.length ≤ 3 ∧ leading.all (· ≤ 255) ∧ last < Nat.pow 256 (4 - leading.length) then
    some
      (leading.foldl (fun address byte => address * 256 + byte) 0 *
        Nat.pow 256 (4 - leading.length) + last)
  else none

/-- The address that a host ending in a number spells. -/
def read (host : List Char) : Except UrlFault Nat :=
  let pieces := labels host
  match pieces.dropLast.mapM label?, pieces.getLast?.bind label? with
  | some leading, some last =>
    match assemble leading last with
    | some address => .ok address
    | none => .error .invalidIpv4
  | _, _ => .error .invalidIpv4

/-- The address as four decimal numbers between dots. -/
def text (address : Nat) : String :=
  toString (address / 16777216 % 256) ++ "." ++ toString (address / 65536 % 256) ++ "." ++
    toString (address / 256 % 256) ++ "." ++ toString (address % 256)

end ResilientHttp.Url.Ipv4
