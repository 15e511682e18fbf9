/-! Why a text is no absolute URL. -/

namespace DependencyLinks.Url

inductive Fault where
  | relative
  | emptyHost
  | port
  | ipv4Address
  | ipv6Address
  | domainName
  | domainCharacter
deriving DecidableEq, Repr

def Fault.message : Fault → String
  | relative => "relative URL without a base"
  | emptyHost => "empty host"
  | port => "invalid port number"
  | ipv4Address => "invalid IPv4 address"
  | ipv6Address => "invalid IPv6 address"
  | domainName => "invalid international domain name"
  | domainCharacter => "invalid domain character"

end DependencyLinks.Url
