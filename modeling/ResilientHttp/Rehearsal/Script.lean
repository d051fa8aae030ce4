import ResilientHttp.Progress
import ResilientHttp.Request
import ResilientHttp.Response

/-!
# Scripts

In a rehearsal the transport plays a script. For each call it plays one scene, a list of actions: it
lets time pass, reports progress, cancels a token, closes the gate, and at last answers. A scene
without an answer is answered with status 200, and so is every call of an empty script. When there
are more calls than scenes, the last scene is played again.
-/

set_option autoImplicit false

namespace ResilientHttp

/-- What a scripted transport does. -/
inductive Action where
  | sleep (span : Span)
  /-- Never answers. -/
  | hang
  | cancel (token : Token)
  | closeGate
  /-- Reports progress; a handler's failure is the answer of the call if it is heeded. -/
  | progress (notice : Notice) (heeded : Bool)
  | reply (response : Response)
  | fail (failure : Failure)
  /-- Goes on as the request demands. -/
  | consult (scene : Request → List Action)

/-- The actions for one call. -/
abbrev Scene := List Action

/-- Answers with the body of the request. -/
def Action.echo : Action := .consult fun request => [.reply { body := request.body }]

/-- The scenes of a script. -/
abbrev Script := List Scene

/-- The scene for a call, where calls are counted from zero. -/
def Script.scene (script : Script) (call : Nat) : Scene :=
  (script[min call (script.length - 1)]?).getD []

end ResilientHttp
