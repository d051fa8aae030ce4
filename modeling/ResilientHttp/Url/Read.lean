import ResilientHttp.Url.Basic
import ResilientHttp.Url.Domain
import ResilientHttp.Url.Ipv6
import ResilientHttp.Url.Percent

/-!
# Reading a URL

A text is read from left to right: the scheme up to the first colon, then for most schemes the
authority after two slashes (user information, host, port), then the path up to a question mark or
number sign, the query, and the fragment. There is no base URL, so a text without a scheme is not a
URL.

Three kinds of schemes differ in how much is forgiven. The special schemes take a backslash for a
slash and any number of slashes before the host, which may not be empty and has to be a domain name
or an IP address. The scheme `file` may leave the host out. Every other scheme has an opaque host
that is only percent-encoded, and without two slashes an opaque path.

Dot segments are resolved while the path is read (`Path.push`): a single dot adds nothing, and two
dots remove the segment before them, but never the root or a drive letter.
-/

set_option autoImplicit false

namespace ResilientHttp.Url

/-! ## Before the scheme -/

/-- Whether a character is a control or a space, which are cut off at both ends. -/
def isEdgeBlank (character : Char) : Bool := character.toNat ≤ 0x20

/-- Whether a character is dropped wherever it stands. -/
def isDropped (character : Char) : Bool :=
  character = '\t' || character = '\n' || character = '\r'

/-- The characters that are read. -/
def significant (characters : List Char) : List Char :=
  let front := characters.dropWhile isEdgeBlank
  ((front.reverse.dropWhile isEdgeBlank).reverse).filter (!isDropped ·)

/-- Whether a character is an ASCII letter. -/
def isLetter (character : Char) : Bool :=
  ('a' ≤ character && character ≤ 'z') || ('A' ≤ character && character ≤ 'Z')

/-- Whether a character is an ASCII digit. -/
def isDigit (character : Char) : Bool := '0' ≤ character && character ≤ '9'

/-- Whether a character may stand in a scheme after its first letter. -/
def isSchemeChar (character : Char) : Bool :=
  isLetter character || isDigit character || character = '+' || character = '-' || character = '.'

/-- The scheme in lower case, and what follows its colon. -/
def splitScheme (characters : List Char) : Option (String × List Char) :=
  match characters with
  | [] => none
  | first :: rest =>
    if isLetter first then
      match Text.breakAt (!isSchemeChar ·) rest with
      | (inside, ':' :: after) =>
        some (String.ofList ((first :: inside).map Char.toLower), after)
      | _ => none
    else none

/-! ## Scheme kinds -/

/-- How a URL is read after its scheme. -/
inductive SchemeKind where
  /-- A special scheme with a host. -/
  | special
  /-- The scheme of files. -/
  | file
  /-- Any other scheme. -/
  | other
  deriving DecidableEq, Repr

/-- The kind of a scheme. -/
def schemeKind (scheme : String) : SchemeKind :=
  if scheme = "file" then .file else if isSpecialScheme scheme then .special else .other

/-- Whether a character is a slash for a kind of scheme. -/
def isSlash (kind : SchemeKind) (character : Char) : Bool :=
  character = '/' || (character = '\\' && kind != .other)

/-- Whether a character ends the authority. -/
def endsAuthority (kind : SchemeKind) (character : Char) : Bool :=
  isSlash kind character || character = '?' || character = '#'

/-! ## User information -/

/-- What stands before and after the last at sign of an authority. -/
def splitLastAt (authority : List Char) : Option (List Char × List Char) :=
  if authority.contains '@' then
    some ((Text.breakAt (· = '@') authority.reverse).2.tail.reverse,
      (Text.breakAt (· = '@') authority.reverse).1.reverse)
  else none

/-- User name and password, percent-encoded. A missing and an empty password are the same. -/
def userInfo (characters : List Char) : String × Option String :=
  let (name, rest) := Text.breakAt (· = ':') characters
  let encoded := String.ofList (Percent.encode Percent.userInfo name)
  match rest with
  | _ :: character :: more =>
    (encoded, some (String.ofList (Percent.encode Percent.userInfo (character :: more))))
  | _ => (encoded, none)

/-! ## Host and port -/

/-- The host and what follows it: the host ends at a colon outside brackets or with the authority. -/
def splitHost (kind : SchemeKind) (bracketed : Bool) : List Char → List Char × List Char
  | [] => ([], [])
  | character :: rest =>
    if (character = ':' && !bracketed) || endsAuthority kind character then
      ([], character :: rest)
    else
      let bracketed :=
        if character = '[' then true else if character = ']' then false else bracketed
      let (inside, after) := splitHost kind bracketed rest
      (character :: inside, after)

/-- The address between brackets, if the host is bracketed. -/
def bracketedHost (host : List Char) : Option (Except UrlFault String) :=
  match host with
  | '[' :: rest =>
    if rest.getLast? = some ']' then some ((Ipv6.read rest.dropLast).map Ipv6.text)
    else some (.error .invalidIpv6)
  | _ => none

/-- The host of a special scheme: an IP address or a domain name in ASCII. -/
def domainHost (host : List Char) : Except UrlFault String :=
  match bracketedHost host with
  | some answer => answer
  | none => do
    let name ← Domain.toAscii (Percent.decode (Utf8.encode host))
    if name.isEmpty then .error .emptyHost
    else if Ipv4.endsInNumber name then (Ipv4.read name).map Ipv4.text
    else pure (String.ofList name)

/-- Characters that no opaque host has. -/
def forbiddenInOpaqueHost : List Char :=
  ['\x00', '\t', '\n', '\r', ' ', '#', '/', ':', '<', '>', '?', '@', '[', '\\', ']', '^', '|']

/-- The host of any other scheme, percent-encoded. -/
def opaqueHost (host : List Char) : Except UrlFault String :=
  match bracketedHost host with
  | some answer => answer
  | none =>
    if host.any forbiddenInOpaqueHost.contains then .error .invalidDomainCharacter
    else pure (String.ofList (Percent.encode Percent.controls host))

/-- Reads digits as a port below 65536. -/
def portNumber (digits : List Char) : Except UrlFault (Option Nat) :=
  if digits.isEmpty then pure none
  else
    match Ipv4.number? 10 digits with
    | some port => if port ≤ 65535 then pure (some port) else .error .invalidPort
    | none => .error .invalidPort

/-- Whether a character ends a port. -/
def endsPort (character : Char) : Bool :=
  character = '/' || character = '\\' || character = '?' || character = '#'

/-- The port after a host, and what follows it; the usual port of the scheme is left out. -/
def splitPort (scheme : String) (characters : List Char) :
    Except UrlFault (Option Nat × List Char) :=
  match characters with
  | ':' :: rest => do
    let (digits, after) := Text.breakAt (!isDigit ·) rest
    let port ← portNumber digits
    match after with
    | next :: _ => if endsPort next then pure () else .error .invalidPort
    | [] => pure ()
    pure (if port = usualPort scheme then none else port, after)
  | _ => pure (none, characters)

/-! ## Paths -/

/-- A path while it is read: the segments that a slash has ended. -/
structure Path where
  ended : List (List Char)

namespace Path

/-- The spellings of a dot segment. -/
def isSingleDot (segment : List Char) : Bool :=
  segment.map Char.toLower == ['.'] || segment.map Char.toLower == ['%', '2', 'e']

/-- The spellings of two dots. -/
def isDoubleDot (segment : List Char) : Bool :=
  [['.', '.'], ['%', '2', 'e', '%', '2', 'e'], ['%', '2', 'e', '.'], ['.', '%', '2', 'e']].contains
    (segment.map Char.toLower)

/-- Whether a segment is a drive letter and a colon or bar. -/
def isDriveLetter (segment : List Char) : Bool :=
  match segment with
  | [letter, mark] => isLetter letter && (mark = ':' || mark = '|')
  | _ => false

/-- The path without its last ended segment; the root and a drive letter stay. -/
def pop (path : Path) : Path :=
  match path.ended with
  | [] => path
  | [_] => path
  | segments =>
    if (segments.getLast?.map isDriveLetter).getD false then path else ⟨segments.dropLast⟩

/-- Whether the text of a path begins with a drive. -/
def hasDrive (path : List Char) : Bool := isDriveLetter ((path.drop 1).takeWhile (· ≠ '/'))

/-- A segment of a file path in its usual spelling: a drive letter is followed by a colon. -/
def usualSegment (kind : SchemeKind) (path : Path) (segment : List Char) : List Char :=
  if kind = .file && path.ended.length = 1 && isDriveLetter segment then
    segment.take 1 ++ [':']
  else segment

/-- Takes in a segment that a slash has ended. -/
def push (kind : SchemeKind) (path : Path) (segment : List Char) : Path :=
  if isDoubleDot segment then path.pop
  else if isSingleDot segment then path
  else ⟨path.ended ++ [path.usualSegment kind segment]⟩

/-- The text of the path with a last segment that nothing has ended. -/
def finish (kind : SchemeKind) (path : Path) (segment : List Char) : List Char :=
  let close (segments : List (List Char)) := segments.flatMap (· ++ ['/'])
  if isDoubleDot segment then close path.pop.ended
  else if isSingleDot segment then close path.ended
  else close path.ended ++ path.usualSegment kind segment

/-- Reads segments until the path ends; `segment` is the one being read, last character first. -/
def read (kind : SchemeKind) (path : Path) (segment : List Char) :
    List Char → List Char × List Char
  | [] => (path.finish kind (Percent.encode Percent.path segment.reverse), [])
  | character :: rest =>
    if isSlash kind character then
      read kind (path.push kind (Percent.encode Percent.path segment.reverse)) [] rest
    else if character = '?' || character = '#' then
      (path.finish kind (Percent.encode Percent.path segment.reverse), character :: rest)
    else read kind path (character :: segment) rest

end Path

/-- The path after its first slash, and what follows it. -/
def splitRootedPath (kind : SchemeKind) (characters : List Char) : List Char × List Char :=
  Path.read kind ⟨[[]]⟩ [] characters

/-- The path after an authority. Special schemes always have one; any other scheme may not. -/
def splitPath (kind : SchemeKind) (characters : List Char) : List Char × List Char :=
  match characters with
  | [] => if kind = .other then ([], []) else splitRootedPath kind []
  | first :: rest =>
    if isSlash kind first then splitRootedPath kind rest
    else if kind = .other && (first = '?' || first = '#') then ([], first :: rest)
    else splitRootedPath kind (first :: rest)

/-- A file path has one slash at its beginning. -/
def oneLeadingSlash (path : List Char) : List Char :=
  '/' :: path.dropWhile (· = '/')

/-- An opaque path and what follows it. -/
def splitOpaquePath (characters : List Char) : List Char × List Char :=
  let (inside, after) := Text.breakAt (fun c => c = '?' || c = '#') characters
  (Percent.encode Percent.controls inside, after)

/-! ## Query and fragment -/

/-- The query and the fragment of a URL whose other parts are read. -/
def withTail (kind : SchemeKind) (url : Url) (characters : List Char) : Url :=
  let fragmentOf (rest : List Char) : Option String :=
    match rest with
    | '#' :: inside => some (String.ofList (Percent.encode Percent.fragment inside))
    | _ => none
  match characters with
  | '?' :: rest =>
    let (inside, after) := Text.breakAt (· = '#') rest
    let set := if kind = .other then Percent.query else Percent.specialQuery
    { url with
      query := some (String.ofList (Percent.encode set inside))
      fragment := fragmentOf after }
  | _ => { url with fragment := fragmentOf characters }

/-! ## The three kinds of URLs -/

/-- A URL with an authority, read from the characters after the two slashes. -/
def readAuthority (scheme : String) (kind : SchemeKind) (characters : List Char) :
    Except UrlFault Url := do
  let (authority, _) := Text.breakAt (endsAuthority kind) characters
  let (name, password, rest) ←
    match splitLastAt authority with
    | none => pure ("", none, characters)
    | some (information, _) =>
      let rest := characters.drop (information.length + 1)
      let (name, password) := userInfo information
      match information, rest with
      | [], next :: _ =>
        if endsAuthority kind next then .error UrlFault.emptyHost else pure ("", none, rest)
      | _, _ => pure (name, password, rest)
  let (hostCharacters, afterHost) := splitHost kind false rest
  if kind = .special && hostCharacters.isEmpty then .error .emptyHost
  let host ← if kind = .other then opaqueHost hostCharacters else domainHost hostCharacters
  if host.isEmpty && afterHost.head? = some ':' then .error .emptyHost
  if host.isEmpty && (!name.isEmpty || password.isSome) then .error .emptyHost
  let (port, afterPort) ← splitPort scheme afterHost
  let (path, tail) := splitPath kind afterPort
  pure <| withTail kind
    { scheme, username := name, password
      host := if host.isEmpty then none else some host
      port, hasAuthority := true, path := String.ofList path } tail

/-- A file URL, read from the characters after the colon. A path with a drive is on no other host. -/
def readFile (characters : List Char) : Except UrlFault Url := do
  let finish (host : Option String) (rest : List Char) : Url :=
    let (path, tail) := splitPath .file rest
    withTail .file
      { scheme := "file", host := if Path.hasDrive path then none else host
        hasAuthority := true, path := String.ofList (oneLeadingSlash path) } tail
  match characters with
  | first :: second :: rest =>
    if isSlash .file first && isSlash .file second then
      let (hostCharacters, afterHost) := Text.breakAt (endsAuthority .file) rest
      if hostCharacters.isEmpty then pure (finish none afterHost)
      else if Path.isDriveLetter hostCharacters then pure (finish none rest)
      else
        let host ← domainHost hostCharacters
        pure (finish (if host = "localhost" then none else some host) afterHost)
    else pure (finish none characters)
  | _ => pure (finish none characters)

/-- A URL of another scheme, read from the characters after the colon. -/
def readOther (scheme : String) (characters : List Char) : Except UrlFault Url :=
  match characters with
  | '/' :: '/' :: rest => readAuthority scheme .other rest
  | '/' :: rest =>
    let (path, tail) := splitRootedPath .other rest
    pure (withTail .other { scheme, path := String.ofList path } tail)
  | _ =>
    let (path, tail) := splitOpaquePath characters
    pure (withTail .other { scheme, path := String.ofList path } tail)

/-- The URL that a text spells. -/
def read (input : String) : Except UrlFault Url :=
  match splitScheme (significant input.toList) with
  | none => .error .relativeWithoutBase
  | some (scheme, rest) =>
    match schemeKind scheme with
    | .special => readAuthority scheme .special (rest.dropWhile (isSlash .special))
    | .file => readFile rest
    | .other => readOther scheme rest

end ResilientHttp.Url
