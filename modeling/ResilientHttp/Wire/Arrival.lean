import ResilientHttp.Method
import ResilientHttp.Progress
import ResilientHttp.Response
import ResilientHttp.Wire.HeaderMap

/-!
# Messages that arrive

An answer arrives as a status and headers, followed by frames: pieces of the body and trailers, in
any number and of any size. Reading of the body may break off with an error.

Progress is reported once before the first frame and then after each piece of the body: the number
of bytes so far, and the length that the headers announce, if they do. When a report is answered
with a failure, that failure is the outcome, and no further frame is read.
-/

set_option autoImplicit false

namespace ResilientHttp.Wire

/-- A part of an arriving message. -/
inductive Frame where
  | data (bytes : Bytes)
  | trailers
  deriving DecidableEq, Repr

/-- An arriving message. -/
structure Arrival where
  status : Nat
  headers : HeaderMap := {}
  frames : List Frame := []
  /-- The words for the error with which the body breaks off. -/
  breakOff : Option String := none
  deriving DecidableEq, Repr

/-- The largest length that is understood. -/
def maxLength : Nat := 18446744073709551615

/-- The number that a text spells: digits, perhaps after a plus sign. -/
def length? (text : String) : Option Nat :=
  let digits := match text.toList with
    | '+' :: rest => rest
    | all => all
  if !digits.isEmpty && digits.all Char.isDigit then
    (some (digits.foldl (fun number digit => number * 10 + (digit.toNat - 48)) 0)).filter
      (· ≤ maxLength)
  else none

namespace Arrival

/-- The length that the headers announce. The answer to a HEAD request has no body, whatever they
say. -/
def expected (arrival : Arrival) (method : Method) : Option Nat :=
  match method with
  | .head => none
  | _ => ((arrival.headers.get "content-length").head?.bind visibleText?).bind length?

/-- The response for a body. An empty body is none. -/
def response (arrival : Arrival) (body : Bytes) : Response :=
  { status := arrival.status, headers := arrival.headers.headers
    body := if body.isEmpty then none else some body }

/-- The outcome when all frames have been read. -/
def finish (arrival : Arrival) (body : Bytes) : Outcome :=
  match arrival.breakOff with
  | some detail => .error (.transport ⟨.body, detail⟩)
  | none => .ok (arrival.response body)

/-- Reads frames, with what has been read so far. Reports are made to a watcher with a memory. -/
def receiveFrames {σ : Type} (report : σ → Notice → Except Failure Unit × σ) (arrival : Arrival)
    (expected : Option Nat) : List Frame → Bytes → σ → Outcome × σ
  | [], body, memory => (arrival.finish body, memory)
  | .trailers :: rest, body, memory => receiveFrames report arrival expected rest body memory
  | .data bytes :: rest, body, memory =>
    let longer := body ++ bytes
    match report memory ⟨longer.length, expected⟩ with
    | (.ok (), after) => receiveFrames report arrival expected rest longer after
    | (.error failure, after) => (.error failure, after)

/-- Reads an arriving message. -/
def receive {σ : Type} (arrival : Arrival) (method : Method)
    (report : σ → Notice → Except Failure Unit × σ) (memory : σ) : Outcome × σ :=
  let expected := arrival.expected method
  match report memory ⟨0, expected⟩ with
  | (.ok (), after) => receiveFrames report arrival expected arrival.frames [] after
  | (.error failure, after) => (.error failure, after)

/-- The notices that are given while everything is read: first zero, then the number of bytes after
each piece of the body. -/
def notices (expected : Option Nat) : Nat → List Frame → List Notice
  | _, [] => []
  | received, .trailers :: rest => notices expected received rest
  | received, .data bytes :: rest =>
    ⟨received + bytes.length, expected⟩ :: notices expected (received + bytes.length) rest

/-- The whole body. -/
def body (arrival : Arrival) : Bytes :=
  arrival.frames.flatMap fun frame =>
    match frame with
    | .data bytes => bytes
    | .trailers => []

end Arrival

/-- A caller's handler as a watcher that remembers the notices it was given. -/
def Handler.report (handler : Option Handler) (seen : List Notice) (notice : Notice) :
    Except Failure Unit × List Notice :=
  match handler with
  | some handler => (handler.respond seen notice, seen ++ [notice])
  | none => (.ok (), seen)

end ResilientHttp.Wire
