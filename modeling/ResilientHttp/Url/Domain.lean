import ResilientHttp.Text.Fold
import ResilientHttp.Text.Utf8
import ResilientHttp.Url.Domain.Direction
import ResilientHttp.Url.Domain.Label
import ResilientHttp.Url.Fault

/-!
# Domain names in ASCII

A domain name may be written in any script. It is mapped and cut at its dots, each label is read, and
the labels are written in ASCII again, those beyond ASCII in Punycode. A few ASCII characters, which
have a meaning in URLs, are not allowed (`allowed_of_toAscii`).

Most names are ASCII and have no label in Punycode. Of such a plain name only the letters become
small.
-/

set_option autoImplicit false

namespace ResilientHttp.Url.Domain

/-- ASCII characters that no domain name has. -/
def forbidden : List Char :=
  [' ', '#', '/', ':', '<', '>', '?', '@', '[', '\\', ']', '^', '|', '%']

/-- Whether a character may stand in a domain name in ASCII. -/
def isAllowedAscii (character : Char) : Bool :=
  0x20 < character.toNat && character.toNat < 0x7f && !forbidden.contains character

/-- Whether a name is ASCII without labels in Punycode. -/
def isPlain (characters : List Char) : Bool :=
  Label.isAscii characters && (Text.split '.' characters).all (!Label.isEncoded ·)

/-- The labels of a name. -/
def labels? (characters : List Char) : Option (List (List Char)) := do
  let mapped ← mapped? characters
  let labels ← (Text.split '.' mapped).mapM Label.read?
  if Direction.fitTogether labels then some labels else none

/-- The ASCII form of a name, which may still have characters that are not allowed. -/
def spelling? (characters : List Char) : Option (List Char) :=
  if isPlain characters then some (characters.map Char.toLower)
  else (labels? characters).map fun labels => Text.join '.' (labels.map Label.ascii)

/-- The ASCII form of a domain name. -/
def toAscii (bytes : Bytes) : Except UrlFault (List Char) :=
  match Utf8.decode bytes with
  | .error _ => .error .invalidDomainName
  | .ok characters =>
    match (spelling? characters).filter (·.all isAllowedAscii) with
    | some name => .ok name
    | none => .error .invalidDomainName

/-- All characters of a domain name in ASCII are allowed. -/
theorem allowed_of_toAscii {bytes : Bytes} {name : List Char} (read : toAscii bytes = .ok name) :
    name.all isAllowedAscii = true := by
  unfold toAscii at read
  split at read
  · simp at read
  · split at read
    · rename_i found
      simp only [Except.ok.injEq] at read
      subst read
      exact (Option.filter_eq_some_iff.1 found).2
    · simp at read

end ResilientHttp.Url.Domain
