import ResilientHttp.Text.Quoted
import ResilientHttp.Time.Span

/-!
# Settings of the wire

How long the wire waits for a whole exchange and for a connection, and how many idle connections it
keeps to each host for how long.
-/

set_option autoImplicit false

namespace ResilientHttp.Wire

/-- The settings of the wire. -/
structure Settings where
  timeout : Span := Span.ofSeconds 30
  connectTimeout : Span := Span.ofSeconds 10
  poolIdlePerHost : Nat := 32
  poolIdleTimeout : Span := Span.ofSeconds 90
  deriving DecidableEq

namespace Settings

/-- Whether the settings are the usual ones. -/
def isUsual (settings : Settings) : Bool := settings = {}

/-- The settings as diagnostics show them. -/
def describe (settings : Settings) : String :=
  Text.describePartialRecord "HyperTransport"
    [("config", Text.describeRecord "HyperTransportConfig"
      [("timeout", settings.timeout.text), ("connect_timeout", settings.connectTimeout.text),
        ("pool_idle_per_host", toString settings.poolIdlePerHost),
        ("pool_idle_timeout", settings.poolIdleTimeout.text)])]

end Settings

end ResilientHttp.Wire
