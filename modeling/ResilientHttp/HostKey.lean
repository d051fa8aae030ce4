import ResilientHttp.Url.Basic

/-!
# Host keys

Failures are counted per host. Two URLs belong to the same host when they agree in scheme and host,
up to the case of ASCII letters, and in the port, where the usual port of the scheme counts as no
port. User information, path, query and fragment do not matter.

The key is a text, `scheme://host` or `scheme://host:port`, which is also the name that logs show.
-/

set_option autoImplicit false

namespace ResilientHttp

/-- The name under which the failures of a host are kept. -/
structure HostKey where
  text : String
  deriving DecidableEq, Repr

namespace HostKey

/-- The host key of a URL. -/
def ofUrl (url : Url) : HostKey :=
  let base := Text.fold url.scheme ++ "://" ++ Text.fold url.hostText
  match url.port with
  | some port => ⟨base ++ ":" ++ toString port⟩
  | none => ⟨base⟩

end HostKey

end ResilientHttp
