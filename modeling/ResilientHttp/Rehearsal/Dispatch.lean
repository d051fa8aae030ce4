import ResilientHttp.Rehearsal.Cue
import ResilientHttp.Wire.Network

/-!
# A single request through a new client

A client over a network adds to an exchange what its configuration and the options of the request
ask for: its headers, a limit for the size, more attempts. Each of its attempts is an exchange over
the network, which a rehearsal plays from its reports and its answer.

As with a bare exchange (`Request.dispatch`), the end is an outcome and the notices that the
caller's handler was given.
-/

set_option autoImplicit false

namespace ResilientHttp

/-- The scene that a rehearsal plays for an exchange: the reports and then the answer. -/
def Wire.Network.scene (network : Wire.Network) (request : Request) : Scene :=
  match network.fetch request with
  | .error failure => [.fail failure]
  | .ok arrival =>
    let expected := arrival.expected request.method
    let reports := ⟨0, expected⟩ :: Wire.Arrival.notices expected 0 arrival.frames
    reports.map (Action.progress · true) ++
      [match arrival.finish arrival.body with
        | .ok response => .reply response
        | .error failure => .fail failure]

/-- The errand whose every call is an exchange over a network. -/
def Errand.across (network : Wire.Network) (request : Request) (watcher : Option Handler) :
    Errand :=
  { request := .ok request, watcher, script := [[.consult network.scene]] }

/-- A request through a new client, or nothing if there is no client with that configuration. -/
def Request.dispatchVia? (request : Request) (config : Config) (network : Wire.Network)
    (watcher : Option Handler) : Option (Outcome × List Notice) := do
  let session ← Session.new? config .direct
  match (session.follow (.request (Errand.across network request watcher))).2 with
  | .flight report => some (report.result, report.forwarded)
  | _ => none

end ResilientHttp
