import ResilientHttp.Progress
import ResilientHttp.Request
import ResilientHttp.Url.Read

/-!
# Ways to hand in a request

A caller may hand in a finished request, as such or through a service, or use one of the helpers,
which read the URL from text, fix the method and send a body only if the method has one. A handler
for notices is taken along only with a finished request and with a download.
-/

set_option autoImplicit false

namespace ResilientHttp

/-- A way to hand in a request. -/
inductive Manner where
  | execute
  | service
  | head
  | get
  | post
  | put
  | delete
  | download
  deriving DecidableEq, Repr

namespace Manner

/-- The method that the way fixes. -/
def method? : Manner → Option Method
  | execute => none
  | service => none
  | head => some .head
  | get => some .get
  | post => some .post
  | put => some .put
  | delete => some .delete
  | download => some .get

/-- Whether a body is sent. -/
def sendsBody : Manner → Bool
  | execute => true
  | service => true
  | post => true
  | put => true
  | _ => false

/-- Whether the caller's handler for notices is taken along. -/
def takesWatcher : Manner → Bool
  | execute => true
  | download => true
  | _ => false

/-- The request that is handed in. -/
def request (manner : Manner) (method : Method) (url : String) (headers : Headers)
    (body : Option Bytes) (options : Options) : Except UrlFault Request :=
  (Url.read url).map fun url =>
    { method := manner.method?.getD method, url, headers, options
      body := if manner.sendsBody then body else none }

/-- The handler that is taken along. -/
def watcher (manner : Manner) (watcher : Option Handler) : Option Handler :=
  if manner.takesWatcher then watcher else none

end Manner

end ResilientHttp
