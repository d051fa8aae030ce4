import ResilientHttp.Json.Value
import ResilientHttp.Text.Quoted

/-!
# Why a document cannot be read

A fault has a cause, the place in the document where it was noticed, and the path of the value that
was being read: the names and indexes that lead to it from the whole document. While a name is
being read the path ends in an unknown step.

Lines are counted from one. The column is the number of bytes of the line up to the place.
-/

set_option autoImplicit false

namespace ResilientHttp.Json

/-- What kind of value was found. -/
inductive Found where
  | null
  | bool (value : Bool)
  | number (value : Number)
  | text (value : String)
  | array
  | object
  deriving DecidableEq, Repr

/-- The words for what was found. -/
def Found.message : Found → String
  | null => "null"
  | bool value => "boolean `" ++ Text.describeBool value ++ "`"
  | number (.real isNegative magnitude) =>
    "floating point `" ++ String.ofList (Number.real isNegative magnitude).characters ++ "`"
  | number whole => "integer `" ++ String.ofList whole.characters ++ "`"
  | text value => "string " ++ Text.quote value
  | array => "sequence"
  | object => "map"

/-- What is wrong with a document. -/
inductive Cause where
  | endInList
  | endInObject
  | endInText
  | endInValue
  | noColon
  | noListComma
  | noObjectComma
  | noWord
  | noValue
  | invalidEscape
  | invalidNumber
  | numberOutOfRange
  | invalidCharacter
  | controlCharacter
  | nameNotText
  | loneSurrogate
  | trailingComma
  | trailingCharacters
  | endOfSurrogates
  | tooDeep
  | wrongType (found : Found) (expected : String)
  | wrongValue (found : Found) (expected : String)
  | wrongLength (length : Nat) (expected : String)
  | missingField (name : String)
  | duplicateField (name : String)
  deriving DecidableEq, Repr

/-- The words for a cause. -/
def Cause.message : Cause → String
  | endInList => "EOF while parsing a list"
  | endInObject => "EOF while parsing an object"
  | endInText => "EOF while parsing a string"
  | endInValue => "EOF while parsing a value"
  | noColon => "expected `:`"
  | noListComma => "expected `,` or `]`"
  | noObjectComma => "expected `,` or `\x7d`"
  | noWord => "expected ident"
  | noValue => "expected value"
  | invalidEscape => "invalid escape"
  | invalidNumber => "invalid number"
  | numberOutOfRange => "number out of range"
  | invalidCharacter => "invalid unicode code point"
  | controlCharacter => "control character (\\u0000-\\u001F) found while parsing a string"
  | nameNotText => "key must be a string"
  | loneSurrogate => "lone leading surrogate in hex escape"
  | trailingComma => "trailing comma"
  | trailingCharacters => "trailing characters"
  | endOfSurrogates => "unexpected end of hex escape"
  | tooDeep => "recursion limit exceeded"
  | wrongType found expected => "invalid type: " ++ found.message ++ ", expected " ++ expected
  | wrongValue found expected => "invalid value: " ++ found.message ++ ", expected " ++ expected
  | wrongLength length expected =>
    "invalid length " ++ toString length ++ ", expected " ++ expected
  | missingField name => "missing field `" ++ name ++ "`"
  | duplicateField name => "duplicate field `" ++ name ++ "`"

/-- One step of a path. -/
inductive Step where
  | item (index : Nat)
  | entry (name : String)
  | unknown
  deriving DecidableEq, Repr

namespace Step

/-- A step as it is written. -/
def text : Step → String
  | item index => "[" ++ toString index ++ "]"
  | entry name => name
  | unknown => "?"

/-- Whether a point stands between the step and the one before it. -/
def isPointed : Step → Bool
  | item _ => false
  | _ => true

/-- The steps of a path, with points between them. -/
def texts (isFirst : Bool) : List Step → String
  | [] => ""
  | step :: rest =>
    (if step.isPointed && !isFirst then "." else "") ++ step.text ++ texts false rest

end Step

/-- A path as it is written; a point stands for the whole document. -/
def pathText (path : List Step) : String :=
  if path.isEmpty then "." else Step.texts true path

/-- A place in a document. -/
structure Place where
  line : Nat
  column : Nat
  deriving DecidableEq, Repr

/-- Why and where a document cannot be read. -/
structure Fault where
  cause : Cause
  place : Place
  path : List Step := []
  deriving DecidableEq, Repr

namespace Fault

/-- The words for a fault. -/
def message (fault : Fault) : String :=
  fault.cause.message ++ " at line " ++ toString fault.place.line ++ " column " ++
    toString fault.place.column

/-- The fault as seen from the value around the one in which it was found. -/
def inside (step : Step) (fault : Fault) : Fault :=
  { fault with path := step :: fault.path }

end Fault

end ResilientHttp.Json
