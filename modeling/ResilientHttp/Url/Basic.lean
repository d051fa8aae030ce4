import ResilientHttp.Text.Fold
import ResilientHttp.Url.Fault

/-!
# URLs

A URL is held by its parts, each already in its written form: lower-case scheme, percent-encoded
user name, password, path, query and fragment, and the host as it appears between the user
information and the port. A port is kept only if it is not the usual port of the scheme.

`Url.text` writes the parts one after another; nothing is lost, since each part is introduced by a
character that the part before it does not contain.
-/

set_option autoImplicit false

namespace ResilientHttp

/-- The parts of a URL. -/
structure Url where
  scheme : String
  username : String := ""
  password : Option String := none
  /-- The host, or nothing if the URL has none or an empty one. -/
  host : Option String := none
  port : Option Nat := none
  /-- Whether two slashes follow the scheme. -/
  hasAuthority : Bool := false
  path : String := ""
  query : Option String := none
  fragment : Option String := none
  deriving DecidableEq, Repr

namespace Url

/-- The schemes whose URLs always have a path, with their usual ports. -/
def specialSchemes : List (String × Option Nat) :=
  [("http", some 80), ("https", some 443), ("ws", some 80), ("wss", some 443), ("ftp", some 21),
    ("file", none)]

/-- Whether a scheme is special. -/
def isSpecialScheme (scheme : String) : Bool :=
  specialSchemes.any (·.1 == scheme)

/-- The usual port of a scheme. -/
def usualPort (scheme : String) : Option Nat :=
  (specialSchemes.lookup scheme).join

/-- The host, where a missing host counts as empty. -/
def hostText (url : Url) : String := url.host.getD ""

/-- User name and password, with the separators that belong to them. -/
def userInfoText (url : Url) : String :=
  match url.password with
  | some password => url.username ++ ":" ++ password ++ "@"
  | none => if url.username.isEmpty then "" else url.username ++ "@"

/-- The port with the colon before it. -/
def portText (url : Url) : String :=
  match url.port with
  | some port => ":" ++ toString port
  | none => ""

/-- The two slashes and what stands between them and the path. -/
def authorityText (url : Url) : String :=
  if url.hasAuthority then "//" ++ url.userInfoText ++ url.hostText ++ url.portText else ""

/-- The query with its question mark. -/
def queryText (url : Url) : String :=
  match url.query with
  | some query => "?" ++ query
  | none => ""

/-- The fragment with its number sign. -/
def fragmentText (url : Url) : String :=
  match url.fragment with
  | some fragment => "#" ++ fragment
  | none => ""

/-- The written form of a URL. A path that begins with two slashes after a scheme without
authority gets a dot segment in front, so that it is not taken for an authority. -/
def text (url : Url) : String :=
  url.scheme ++ ":" ++ url.authorityText ++
    (if !url.hasAuthority && url.path.startsWith "//" then "/." else "") ++
    url.path ++ url.queryText ++ url.fragmentText

end Url

end ResilientHttp
