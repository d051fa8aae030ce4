import ResilientHttp.Text.Unreadable

/-!
# Quoted and described text

Diagnostics show a text between double quotes, with the characters that would be unreadable there
written as escapes, and show a record as its name followed by its named fields between braces.
These two forms are output only: nothing reads them back.

Every character is escaped on its own (`quote_toList`), so the quoted form of a concatenation is
the concatenation of the quoted inner parts.
-/

set_option autoImplicit false

namespace ResilientHttp.Text

/-! ## Quoted text -/

/-- The hexadecimal digits of a number, in lower case and without leading zeros. -/
def hexDigits (number : Nat) : List Char :=
  Nat.toDigits 16 number

/-- One character as it stands between quotes. -/
def escape (character : Char) : List Char :=
  if character = '"' then ['\\', '"']
  else if character = '\\' then ['\\', '\\']
  else if character = '\n' then ['\\', 'n']
  else if character = '\t' then ['\\', 't']
  else if character = '\r' then ['\\', 'r']
  else if character.toNat = 0 then ['\\', '0']
  else if isUnreadable character then
    '\\' :: 'u' :: '\x7b' :: (hexDigits character.toNat ++ ['\x7d'])
  else [character]

/-- A text between double quotes. -/
def quote (text : String) : String :=
  String.ofList ('"' :: (text.toList.flatMap escape ++ ['"']))

theorem quote_toList (text : String) :
    (quote text).toList = '"' :: (text.toList.flatMap escape ++ ['"']) := by
  simp [quote]

/-! ## Described values -/

/-- The items between square brackets, separated by commas. -/
def describeList (items : List String) : String :=
  "[" ++ String.intercalate ", " items ++ "]"

/-- `Some(item)` or `None`. -/
def describeOption (item : Option String) : String :=
  match item with
  | some text => "Some(" ++ text ++ ")"
  | none => "None"

/-- A field of a described record. -/
def describeField (field : String × String) : String :=
  field.1 ++ ": " ++ field.2

/-- A record: its name and its fields between braces. -/
def describeRecord (name : String) (fields : List (String × String)) : String :=
  name ++ " \x7b " ++ String.intercalate ", " (fields.map describeField) ++ " \x7d"

/-- A record that shows only some of its fields; two dots stand for the others. -/
def describePartialRecord (name : String) (fields : List (String × String)) : String :=
  name ++ " \x7b " ++ String.intercalate ", " (fields.map describeField ++ [".."]) ++ " \x7d"

/-- `true` or `false`. -/
def describeBool (flag : Bool) : String :=
  if flag then "true" else "false"

end ResilientHttp.Text
