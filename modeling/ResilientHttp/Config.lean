import ResilientHttp.Header
import ResilientHttp.Time.Span

/-!
# Configuration

What holds for every request of a client: headers to send, when to keep away from a host, how many
attempts may run at once, and how the client names itself.
-/

set_option autoImplicit false

namespace ResilientHttp

/-- When to keep away from a host: after so many failures younger than the given age. -/
structure BreakerStrategy where
  maxErrors : Nat
  age : Span
  maxErrors_pos : 0 < maxErrors := by decide
  deriving DecidableEq

namespace BreakerStrategy

/-- The strategy with at least one failure. -/
def hostErrors (maxErrors : Nat) (age : Span) : BreakerStrategy :=
  ⟨max maxErrors 1, age, by omega⟩

/-- The strategy as diagnostics show it. -/
def describe (strategy : BreakerStrategy) : String :=
  Text.describeRecord "CircuitBreakerStrategy"
    [("max_errors", toString strategy.maxErrors), ("age", strategy.age.text)]

end BreakerStrategy

/-- The configuration of a client. -/
structure Config where
  headers : Headers := {}
  breaker : Option BreakerStrategy := none
  /-- How many attempts may run at once; nothing means any number. -/
  maxConcurrent : Option Nat := none
  userAgent : String := "haul/0.1.0"

namespace Config

/-- The configuration with one more header, unless it already has it. -/
def addHeader (config : Config) (name value : String) : Config :=
  { config with headers := config.headers.addValue name value }

/-- The configuration with further headers as they are. -/
def mergeHeaders (config : Config) (headers : Headers) : Config :=
  { config with headers := config.headers.merge headers }

/-- The configuration with a breaker. -/
def withBreaker (config : Config) (strategy : BreakerStrategy) : Config :=
  { config with breaker := some strategy }

/-- The configuration with a bound on the attempts that run at once; zero means none. -/
def withMaxConcurrent (config : Config) (bound : Nat) : Config :=
  { config with maxConcurrent := if bound = 0 then none else some bound }

/-- The configuration with another name for the client. -/
def withUserAgent (config : Config) (userAgent : String) : Config :=
  { config with userAgent }

/-- The configuration as diagnostics show it. -/
def describe (config : Config) : String :=
  Text.describeRecord "ClientConfig"
    [("request_headers", config.headers.describe),
      ("circuit_breaker", Text.describeOption (config.breaker.map BreakerStrategy.describe)),
      ("max_concurrent_requests", Text.describeOption (config.maxConcurrent.map toString)),
      ("user_agent", Text.quote config.userAgent)]

end Config

end ResilientHttp
