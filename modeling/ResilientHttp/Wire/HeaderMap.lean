import ResilientHttp.Header
import ResilientHttp.Text.Utf8

/-!
# Headers on the wire

On the wire a header has a name of certain ASCII characters, without regard to case, and a value of
bytes without control characters. The headers of a message are grouped: all values of a name stand
at the place of its first value, in the order in which they were given, and the name is in lower
case.

`HeaderMap.headers` takes the headers that a caller can use out of a message: those whose values are
visible ASCII, each name and value once.
-/

set_option autoImplicit false

namespace ResilientHttp.Wire

/-! ## Names and values -/

/-- The characters besides letters and digits that a name may have. -/
def nameMarks : List Char :=
  ['!', '#', '$', '%', '&', '\'', '*', '+', '-', '.', '^', '_', '`', '|', '~']

/-- Whether a character may stand in a name. -/
def isNameCharacter (character : Char) : Bool :=
  character.isAlphanum || nameMarks.contains character

/-- The longest name. -/
def maxNameLength : Nat := 65535

/-- Whether a text is a name. -/
def isName (text : String) : Bool :=
  !text.isEmpty && text.length ≤ maxNameLength && text.toList.all isNameCharacter

/-- Whether a byte may stand in a value. -/
def isValueByte (byte : UInt8) : Bool := (0x20 ≤ byte && byte ≠ 0x7f) || byte = 0x09

/-- Whether a byte is visible ASCII, a space or a tab. -/
def isVisibleByte (byte : UInt8) : Bool := (0x20 ≤ byte && byte < 0x7f) || byte = 0x09

/-- The text of a value that is visible ASCII. -/
def visibleText? (value : Bytes) : Option String :=
  if value.all isVisibleByte then
    some (String.ofList (value.map fun byte => Char.ofNat byte.toNat))
  else none

/-! ## Grouped headers -/

/-- Headers grouped by name, in the order of the first values. -/
structure HeaderMap where
  groups : List (String × List Bytes) := []
  deriving DecidableEq, Repr

namespace HeaderMap

/-- Appends a value to the group of its name. -/
def appendTo (name : String) (value : Bytes) :
    List (String × List Bytes) → List (String × List Bytes)
  | [] => [(name, [value])]
  | (other, values) :: rest =>
    if other = name then (other, values ++ [value]) :: rest
    else (other, values) :: appendTo name value rest

/-- The map with one more value. -/
def append (map : HeaderMap) (name : String) (value : Bytes) : HeaderMap :=
  ⟨appendTo (Text.fold name) value map.groups⟩

/-- The values of a name, in the order in which they were given. -/
def get (map : HeaderMap) (name : String) : List Bytes :=
  (map.groups.lookup (Text.fold name)).getD []

/-- The headers one by one. -/
def toList (map : HeaderMap) : List (String × Bytes) :=
  map.groups.flatMap fun group => group.2.map fun value => (group.1, value)

/-- The headers that a caller can use. -/
def headers (map : HeaderMap) : Headers :=
  Headers.ofList (map.toList.filterMap fun entry =>
    (visibleText? entry.2).map fun value => ⟨entry.1, value⟩)

end HeaderMap

/-! ## From a caller's headers -/

/-- What is wrong with a header that is to be sent. -/
inductive HeaderFault where
  | name
  | value
  /-- The message has as many names as it can have. -/
  | full
  deriving DecidableEq, Repr

/-- The wording of a fault. -/
def HeaderFault.message : HeaderFault → String
  | name => "invalid HTTP header name"
  | value => "failed to parse header value"
  | full => "max size reached"

/-- A header as it is sent: its name is looked at first, then its value. -/
def checkHeader (header : Header) : Except HeaderFault (String × Bytes) :=
  if !isName header.name then .error .name
  else
    let value := Utf8.ofString header.value
    if value.all isValueByte then .ok (header.name, value) else .error .value

/-- The most names of a message. -/
def HeaderMap.maxNames : Nat := 24576

/-- The map with one more header of a caller. To a full map nothing can be added, not even another
value of a name that is there. -/
def HeaderMap.push (map : HeaderMap) (header : Header) : Except HeaderFault HeaderMap := do
  let (name, value) ← checkHeader header
  if map.groups.length < maxNames then pure (map.append name value) else .error .full

/-- The headers as they are sent, or what is wrong with the first bad one. -/
def HeaderMap.ofHeaders (headers : Headers) : Except HeaderFault HeaderMap :=
  headers.items.foldlM push {}

end ResilientHttp.Wire
