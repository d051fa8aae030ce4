/-!
# Why a text is not a URL

The faults a URL reader can find, each with its wording.
-/

set_option autoImplicit false

namespace ResilientHttp

/-- What is wrong with a text that was to be a URL. -/
inductive UrlFault where
  /-- A scheme that needs a host has none. -/
  | emptyHost
  /-- The host is not a valid international domain name. -/
  | invalidDomainName
  /-- The port is not a number below 65536. -/
  | invalidPort
  /-- The host ends in a number without being an IPv4 address. -/
  | invalidIpv4
  /-- The host in brackets is not an IPv6 address. -/
  | invalidIpv6
  /-- The host has a character that no host may have. -/
  | invalidDomainCharacter
  /-- The text has no scheme. -/
  | relativeWithoutBase
  deriving DecidableEq, Repr

namespace UrlFault

/-- The wording of a fault. -/
def message : UrlFault → String
  | emptyHost => "empty host"
  | invalidDomainName => "invalid international domain name"
  | invalidPort => "invalid port number"
  | invalidIpv4 => "invalid IPv4 address"
  | invalidIpv6 => "invalid IPv6 address"
  | invalidDomainCharacter => "invalid domain character"
  | relativeWithoutBase => "relative URL without a base"

end UrlFault

end ResilientHttp
