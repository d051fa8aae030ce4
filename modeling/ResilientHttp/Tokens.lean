import ResilientHttp.Cancellation

/-!
# Tokens

A token is a name for a latch. A copy of a token is another name for the same latch, whoever holds
it; dropping a token forgets the name and leaves the latch to the others. Tasks wait for a token and
callers cancel it, each through a token of their own, step by step and in any order.
-/

set_option autoImplicit false

namespace ResilientHttp

/-- Latches, and the names by which they are held. -/
structure Tokens where
  latches : List Latch := []
  names : List (String × Nat) := []
  deriving DecidableEq, Repr

namespace Tokens

/-- The latch behind a name. -/
def latch? (tokens : Tokens) (name : String) : Option Latch :=
  (tokens.names.lookup name).bind fun place => tokens.latches[place]?

/-- Whether the token was cancelled, if there is a token of that name. -/
def isCancelled (tokens : Tokens) (name : String) : Option Bool :=
  (tokens.latch? name).map Latch.isRaised

/-- Changes the latch behind a name. -/
def onLatch (tokens : Tokens) (name : String) (change : Latch → Latch) : Tokens :=
  match tokens.names.lookup name with
  | some place => { tokens with latches := tokens.latches.modify place change }
  | none => tokens

/-- Gives a name to a latch. A token of the same name is forgotten. -/
def bind (tokens : Tokens) (name : String) (place : Nat) : Tokens :=
  { tokens with names := tokens.names.filter (·.1 != name) ++ [(name, place)] }

/-- What can be done with tokens. -/
inductive Act where
  /-- A new token is made. -/
  | make (name : String)
  /-- A token is copied. -/
  | copy (name token : String)
  | drop (name : String)
  /-- Somebody who holds the token takes a step at its latch. -/
  | go (name : String) (step : Latch.Act)
  deriving DecidableEq, Repr

/-- The tokens after an act. -/
def act (tokens : Tokens) : Act → Tokens
  | .make name =>
    { tokens with latches := tokens.latches ++ [({} : Latch)] }.bind name tokens.latches.length
  | .copy name token =>
    match tokens.names.lookup token with
    | some place => tokens.bind name place
    | none => tokens
  | .drop name => { tokens with names := tokens.names.filter (·.1 != name) }
  | .go name step => tokens.onLatch name (·.act step)

/-- The tokens after a run. -/
def run (tokens : Tokens) (acts : List Act) : Tokens := acts.foldl act tokens

end Tokens

end ResilientHttp
