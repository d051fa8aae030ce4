import ResilientHttp.Url.Ipv4

/-!
# IPv6 addresses as hosts

An address in brackets has eight groups of up to four hexadecimal digits between colons. Two colons
in a row, which may occur once, stand for one or more groups of zeros; the last two groups may be
written as an IPv4 address. The written form leaves out the first of the longest runs of at least
two groups of zeros.
-/

set_option autoImplicit false

namespace ResilientHttp.Url.Ipv6

/-- One group: one to four hexadecimal digits. -/
def group? (digits : List Char) : Option Nat :=
  if digits.isEmpty || 4 < digits.length then none else Ipv4.number? 16 digits

/-- One decimal byte without a leading zero. -/
def byte? (digits : List Char) : Option Nat :=
  match digits with
  | ['0'] => some 0
  | '0' :: _ => none
  | [] => none
  | digits => (Ipv4.number? 10 digits).bind fun value => if value ≤ 255 then some value else none

/-- The two groups that four decimal bytes between dots spell. -/
def dotted? (characters : List Char) : Option (List Nat) :=
  match (Text.split '.' characters).mapM byte? with
  | some [first, second, third, fourth] => some [first * 256 + second, third * 256 + fourth]
  | _ => none

/-- The groups of a list of fields; only the last field may be dotted, and only if allowed. -/
def groups? (dottedAllowed : Bool) : List (List Char) → Option (List Nat)
  | [] => some []
  | [last] =>
    if dottedAllowed && last.contains '.' then dotted? last
    else (group? last).map ([·])
  | field :: fields => do
    let group ← group? field
    let others ← groups? dottedAllowed fields
    pure (group :: others)

/-- The groups of one side of the double colon; an empty side has none. -/
def side? (dottedAllowed : Bool) (characters : List Char) : Option (List Nat) :=
  if characters.isEmpty then some [] else groups? dottedAllowed (Text.split ':' characters)

/-- What stands before and after the first double colon. -/
def splitDouble : List Char → Option (List Char × List Char)
  | [] => none
  | ':' :: ':' :: rest => some ([], rest)
  | character :: rest => (splitDouble rest).map fun sides => (character :: sides.1, sides.2)

/-- The eight groups that the text between the brackets spells. -/
def groupsOf? (characters : List Char) : Option (List Nat) :=
  match splitDouble characters with
  | some (front, back) => do
    let before ← side? false front
    let after ← side? true back
    if before.length + after.length ≤ 7 then
      pure (before ++ List.replicate (8 - before.length - after.length) 0 ++ after)
    else none
  | none => do
    let groups ← groups? true (Text.split ':' characters)
    if groups.length = 8 then pure groups else none

/-- Reads the text between the brackets. -/
def read (characters : List Char) : Except UrlFault (List Nat) :=
  match groupsOf? characters with
  | some groups => .ok groups
  | none => .error .invalidIpv6

/-- The length of the run of zeros at the beginning of a list of groups. -/
def zeroRun (groups : List Nat) : Nat := (groups.takeWhile (· = 0)).length

/-- The place and the length of the first of the longest runs of zeros. -/
def longestRun : List Nat → Nat × Nat
  | [] => (0, 0)
  | group :: groups =>
    let here := zeroRun (group :: groups)
    let later := longestRun groups
    if later.2 ≤ here then (0, here) else (later.1 + 1, later.2)

/-- Groups in lower-case hexadecimal digits, between colons. -/
def groupsText (groups : List Nat) : List Char :=
  Text.join ':' (groups.map (Nat.toDigits 16))

/-- The written form, with its brackets. -/
def text (groups : List Nat) : String :=
  let (start, length) := longestRun groups
  let inner :=
    if 2 ≤ length then
      groupsText (groups.take start) ++ [':', ':'] ++ groupsText (groups.drop (start + length))
    else groupsText groups
  String.ofList ('[' :: (inner ++ [']']))

end ResilientHttp.Url.Ipv6
