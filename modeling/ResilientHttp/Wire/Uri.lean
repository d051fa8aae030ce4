import ResilientHttp.Text.Fold
import ResilientHttp.Text.Split
import ResilientHttp.Text.Utf8

/-!
# Request targets

A request is sent to a URI that has a scheme, an authority, and a path with a query. Not every URL
has this form: a URL without two slashes behind its scheme has no authority, and the authority of a
scheme that is not special may hold characters that a URI does not allow.

A text that is no URI at all but one authority, such as `foo:`, is a target without a scheme.
-/

set_option autoImplicit false

namespace ResilientHttp.Wire

/-- Why a text is not a target. -/
inductive UriFault where
  | tooLong
  | empty
  | schemeTooLong
  | invalidCharacter
  | invalidAuthority
  | invalidFormat
  deriving DecidableEq, Repr

/-- The wording of a fault. -/
def UriFault.message : UriFault → String
  | tooLong => "uri too long"
  | empty => "empty string"
  | schemeTooLong => "scheme too long"
  | invalidCharacter => "invalid uri character"
  | invalidAuthority => "invalid authority"
  | invalidFormat => "invalid format"

/-- A target: its scheme if it has one, its authority, and the rest without the fragment. -/
structure Uri where
  scheme : Option String
  authority : String
  pathAndQuery : String
  deriving DecidableEq, Repr

namespace Uri

/-- The longest target. -/
def maxLength : Nat := 65534

/-- The longest scheme. -/
def maxSchemeLength : Nat := 64

/-- The most colons in the host and port of an authority. -/
def maxColons : Nat := 8

/-- Whether a character may stand in a scheme. -/
def isSchemeCharacter (character : Char) : Bool :=
  character.isAlphanum || character = '+' || character = '-' || character = '.'

/-- Whether a character may stand in an authority, where it has no meaning of its own. -/
def isAuthorityCharacter (character : Char) : Bool :=
  character.isAlphanum ||
    ['!', '$', '&', '\'', '(', ')', '*', '+', ',', '-', '.', ';', '=', '_', '~'].contains character

/-- The scheme and what follows the two slashes, if the text has a scheme. -/
def splitScheme (characters : List Char) : Except UriFault (Option (String × List Char)) :=
  let (scheme, after) := Text.breakAt (!isSchemeCharacter ·) characters
  match after with
  | ':' :: '/' :: '/' :: rest =>
    if maxSchemeLength < scheme.length then .error .schemeTooLong
    else .ok (some (String.ofList scheme, rest))
  | _ => .ok none

/-- What was seen of an authority. -/
structure Seen where
  colons : Nat := 0
  opened : Bool := false
  closed : Bool := false
  percent : Bool := false
  /-- Whether the last character was the one that ends the user information. -/
  atSign : Bool := false

/-- Takes one more character of an authority into account. -/
def see (seen : Seen) (character : Char) : Except UriFault Seen :=
  if character = ':' then
    if maxColons ≤ seen.colons then .error .invalidAuthority
    else .ok { seen with colons := seen.colons + 1, atSign := false }
  else if character = '[' then
    if seen.percent || seen.opened then .error .invalidAuthority
    else .ok { seen with opened := true, atSign := false }
  else if character = ']' then
    if !seen.opened || seen.closed then .error .invalidAuthority
    else .ok { seen with closed := true, colons := 0, percent := false, atSign := false }
  else if character = '@' then
    .ok { seen with colons := 0, percent := false, atSign := true }
  else if character = '%' then .ok { seen with percent := true, atSign := false }
  else if isAuthorityCharacter character then .ok { seen with atSign := false }
  else .error .invalidCharacter

/-- Whether a character ends an authority. -/
def endsAuthority (character : Char) : Bool :=
  character = '/' || character = '?' || character = '#'

/-- The authority and what follows it. -/
def splitAuthority (characters : List Char) : Except UriFault (List Char × List Char) := do
  let (authority, after) := Text.breakAt endsAuthority characters
  let seen ← authority.foldlM see {}
  if seen.opened != seen.closed || 1 < seen.colons || seen.atSign || seen.percent then
    .error .invalidAuthority
  else pure (authority, after)

/-- The visible characters that may not stand in a path. -/
def forbiddenInPath : List Char := ['#', '<', '>', '`']

/-- The visible characters that may not stand in a query. -/
def forbiddenInQuery : List Char := ['"', '#', '<', '>']

/-- Whether a character may stand in a path. -/
def isPathCharacter (character : Char) : Bool :=
  0x21 ≤ character.toNat && !forbiddenInPath.contains character

/-- Whether a character may stand in a query. -/
def isQueryCharacter (character : Char) : Bool :=
  0x21 ≤ character.toNat && !forbiddenInQuery.contains character

/-- The path and the query, without a fragment. -/
def readPathAndQuery (characters : List Char) : Except UriFault String :=
  let whole := characters.takeWhile (· ≠ '#')
  let (path, query) := Text.breakAt (· = '?') whole
  if path.all isPathCharacter && (query.drop 1).all isQueryCharacter then
    .ok (String.ofList whole)
  else .error .invalidCharacter

/-- The target that a text spells. -/
def read (text : String) : Except UriFault Uri := do
  if maxLength < (Utf8.ofString text).length then .error .tooLong
  let characters := text.toList
  match characters with
  | [] => .error .empty
  | '/' :: _ =>
    pure { scheme := none, authority := "", pathAndQuery := ← readPathAndQuery characters }
  | _ =>
    match ← splitScheme characters with
    | none =>
      let (authority, after) ← splitAuthority characters
      if after.isEmpty then
        pure { scheme := none, authority := String.ofList authority, pathAndQuery := "" }
      else .error .invalidFormat
    | some (scheme, rest) =>
      let (authority, after) ← splitAuthority rest
      if authority.isEmpty then .error .invalidFormat
      else
        pure
          { scheme := some scheme, authority := String.ofList authority
            pathAndQuery := ← readPathAndQuery after }

end Uri

end ResilientHttp.Wire
