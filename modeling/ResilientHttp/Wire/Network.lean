import ResilientHttp.Wire.Arrival
import ResilientHttp.Wire.Outgoing

/-!
# Exchanges over a network

A network takes a message and gives back what arrives, or the fault that kept it from arriving. The
wire sends a message only to a target with a scheme, and only for the schemes `http` and `https`.

A fault becomes a failure of the transport. Its kind is read off its words: whatever speaks of TLS
or of a certificate concerns these, another fault while connecting concerns the connection.

A request that is dispatched over a network is one exchange, with its reports made to the handler of
the caller (`Request.dispatch`). It ends with an outcome and the notices that the handler was given.
-/

set_option autoImplicit false

namespace ResilientHttp

namespace Wire

/-- How far an exchange had come when it failed. -/
inductive Phase where
  | connect
  | sendRequest
  /-- The target has no scheme. -/
  | absoluteUriRequired
  deriving DecidableEq, Repr

/-- The word for a phase. -/
def Phase.text : Phase → String
  | connect => "Connect"
  | sendRequest => "SendRequest"
  | absoluteUriRequired => "UserAbsoluteUriRequired"

/-- Why nothing arrived. -/
structure WireFault where
  phase : Phase
  detail : Option String
  deriving DecidableEq, Repr

/-- Whether a list stands somewhere in another. -/
def occursIn (part : List Char) : List Char → Bool
  | [] => part.isEmpty
  | first :: rest => part.isPrefixOf (first :: rest) || occursIn part rest

namespace WireFault

/-- The words for the phase. -/
def headline (fault : WireFault) : String := "client error (" ++ fault.phase.text ++ ")"

/-- The words for a fault. -/
def message (fault : WireFault) : String :=
  match fault.detail with
  | some detail => fault.headline ++ ": " ++ detail
  | none => fault.headline

/-- Whether the words of a fault hold another word, up to the case of ASCII letters. -/
def speaksOf (fault : WireFault) (word : String) : Bool :=
  occursIn word.toList (Text.fold fault.message).toList

/-- The part of the exchange that failed. -/
def kind (fault : WireFault) : TransportKind :=
  if fault.speaksOf "tls" || fault.speaksOf "certificate" then .tls
  else if fault.phase = .connect then .connect
  else .other

/-- The failure for a fault. -/
def failure (fault : WireFault) : Failure := .transport ⟨fault.kind, fault.message⟩

end WireFault

/-- Carries messages. -/
structure Network where
  deliver : Outgoing → Except WireFault Arrival

/-- The network on which nobody can be connected to. -/
def Network.unreachable : Network := ⟨fun _ => .error ⟨.connect, some "tcp connect error"⟩⟩

/-- Sends a message, if its target is one that the wire knows. -/
def Network.send (network : Network) (outgoing : Outgoing) : Except WireFault Arrival :=
  match outgoing.uri.scheme with
  | none => .error ⟨.absoluteUriRequired, none⟩
  | some scheme =>
    if ["http", "https"].contains (Text.fold scheme) then network.deliver outgoing
    else .error ⟨.connect, some ("unsupported scheme " ++ scheme)⟩

/-- What arrives for a request. -/
def Network.fetch (network : Network) (request : Request) : Except Failure Arrival := do
  let outgoing ← Outgoing.ofRequest request
  (network.send outgoing).mapError WireFault.failure

/-- A whole exchange, with its reports made to a watcher with a memory. -/
def Network.exchange {σ : Type} (network : Network) (request : Request)
    (report : σ → Notice → Except Failure Unit × σ) (memory : σ) : Outcome × σ :=
  match network.fetch request with
  | .ok arrival => arrival.receive request.method report memory
  | .error failure => (.error failure, memory)

end Wire

/-- A request as one exchange over a network. -/
def Request.dispatch (request : Request) (network : Wire.Network) (watcher : Option Handler) :
    Outcome × List Notice :=
  network.exchange request (Wire.Handler.report watcher) []

end ResilientHttp
