/-!
# What can be wrong with a URL

Of the many oddities a URL may show only these make it unreadable.
-/

namespace DirectoryClient.Url

/-- Why a text is not an absolute URL. -/
inductive Fault
  | noScheme
  | badPort
  | emptyHost
  /-- The address in brackets is malformed. -/
  | badIpv6
  /-- The host looks like an address in dotted form and is none. -/
  | badIpv4
  /-- The host has a character that no host may have. -/
  | badHostCharacter
  /-- The host is not a name of the domain name system. -/
  | badDomain
  deriving DecidableEq

def Fault.message : Fault → String
  | .noScheme => "relative URL without a base"
  | .badPort => "invalid port number"
  | .emptyHost => "empty host"
  | .badIpv6 => "invalid IPv6 address"
  | .badIpv4 => "invalid IPv4 address"
  | .badHostCharacter => "invalid domain character"
  | .badDomain => "invalid international domain name"

end DirectoryClient.Url
